import Geoflow.Url.Percent

set_option autoImplicit false

namespace Geoflow.Url

def isSingleDot (cs : List Char) : Bool :=
  [".", "%2e", "%2E"].any fun spelling => spelling.toList == cs

def isDoubleDot (cs : List Char) : Bool :=
  ["..", "%2e%2e", "%2e%2E", "%2E%2e", "%2E%2E", "%2e.", "%2E.", ".%2e", ".%2E"].any
    fun spelling => spelling.toList == cs

/-- A segment that names a drive, alone or before a backslash; going up stops there. -/
def isDrive : List Char → Bool
  | letter :: mark :: rest =>
    letter.isAlpha && (mark == ':' || mark == '|') && (rest.isEmpty || rest.head? == some '\\')
  | _ => false

def goUp (levels : List (List Char)) : List (List Char) :=
  if levels.getLast?.any isDrive then levels else levels.dropLast

/-- Walks segments from the levels reached so far; the last segment is not a level of its own. -/
def walk : List (List Char) → List (List Char) → List Char
  | levels, [] => levels.flatMap fun level => '/' :: level
  | levels, [last] =>
    let stem := levels.flatMap fun level => '/' :: level
    if isDoubleDot last then ((goUp levels).flatMap fun level => '/' :: level) ++ ['/']
    else if isSingleDot last then stem ++ ['/']
    else stem ++ '/' :: last
  | levels, segment :: rest =>
    if isDoubleDot segment then walk (goUp levels) rest
    else if isSingleDot segment then walk levels rest
    else walk (levels ++ [segment]) rest

def pathOf (segments : List (List Char)) : List Char :=
  walk [] (segments.map (Percent.encode Percent.inPath))

end Geoflow.Url
