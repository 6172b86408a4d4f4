import Geoflow.Settings.Load
import Geoflow.Text.Utf8

set_option autoImplicit false

namespace Geoflow.Command

def splitOctets (mark : UInt8) : List UInt8 → List (List UInt8)
  | [] => [[]]
  | b :: rest =>
    if b = mark then [] :: splitOctets mark rest
    else match splitOctets mark rest with
      | [] => [[b]]
      | part :: parts => (b :: part) :: parts

def variableOf? (octets : List UInt8) : Option (String × String) :=
  match Utf8.decode octets with
  | .ok cs =>
    match cs.dropWhile (· != '=') with
    | _ :: value => some (String.ofList (cs.takeWhile (· != '=')), String.ofList value)
    | [] => none
  | .error _ => none

/-- The environment in a block of variables that zero octets end. -/
def environmentOfBlock (block : List UInt8) : Environment :=
  (splitOctets 0 block).filterMap variableOf?

/-- A folder with all folders above it, as path texts that end in a slash. -/
def foldersAbove (folder : String) : List String :=
  let parts := (Text.splitAt '/' folder.toList).filter (!·.isEmpty)
  ((List.range (parts.length + 1)).reverse).map fun n =>
    "/" ++ String.join ((parts.take n).map fun part => String.ofList part ++ "/")

def settingsPlaces (folder path : String) : List String :=
  if path.startsWith "/" then [path] else (foldersAbove folder).map (· ++ path)

end Geoflow.Command
