import Geoflow.Toml.Scalar
import Geoflow.Toml.Table

set_option autoImplicit false

namespace Geoflow.Toml

def depthLimit : Nat := 79

def name? : List Char → Option (String × List Char)
  | '"' :: rest => (basic? rest).map fun (text, after) => (String.ofList text, after)
  | '\'' :: rest => (literal? rest).map fun (text, after) => (String.ofList text, after)
  | cs =>
    let text := cs.takeWhile isBareChar
    if text.isEmpty then none else some (String.ofList text, cs.dropWhile isBareChar)

/-- Names with dots between them, and the gaps around them. The number bounds their count. -/
def path? : Nat → List Char → Option (List String × List Char)
  | 0, _ => none
  | more + 1, cs => do
    let (name, rest) ← name? (skipGaps cs)
    match skipGaps rest with
    | '.' :: rest => do
      let (names, after) ← path? more rest
      some (name :: names, after)
    | after => some ([name], after)

mutual

/-- A value and what follows it. The first number bounds the steps, the second the nesting. -/
def value? : Nat → Nat → List Char → Option (Json × List Char)
  | 0, _, _ => none
  | fuel + 1, depth, cs =>
    match cs with
    | '"' :: _ => (string? cs).map fun (text, after) => (.str (String.ofList text), after)
    | '\'' :: _ => (string? cs).map fun (text, after) => (.str (String.ofList text), after)
    | '[' :: rest =>
      match depth with
      | 0 => none
      | depth + 1 => do
        let (items, after) ← items? fuel depth (skipLines false rest)
        some (.arr items, after)
    | '{' :: rest =>
      match depth with
      | 0 => none
      | depth + 1 =>
        match skipGaps rest with
        | '}' :: after => some (.obj [], after)
        | rest => do
          let (entries, after) ← pairs? fuel depth [] rest
          some ((Node.table .defined entries).toJson, after)
    | _ => scalar? cs

def items? : Nat → Nat → List Char → Option (List Json × List Char)
  | 0, _, _ => none
  | fuel + 1, depth, cs =>
    match cs with
    | ']' :: after => some ([], after)
    | _ => do
      let (item, rest) ← value? fuel depth cs
      match skipLines false rest with
      | ']' :: after => some ([item], after)
      | ',' :: rest => do
        let (items, after) ← items? fuel depth (skipLines false rest)
        some (item :: items, after)
      | _ => none

def pairs? : Nat → Nat → Entries → List Char → Option (Entries × List Char)
  | 0, _, _, _ => none
  | fuel + 1, depth, entries, cs => do
    let (path, rest) ← path? depthLimit cs
    match rest with
    | '=' :: rest => do
      let (v, rest) ← value? fuel depth (skipGaps rest)
      let entries ← setDotted path v .defined entries
      match skipGaps rest with
      | '}' :: after => some (entries, after)
      | ',' :: rest => pairs? fuel depth entries rest
      | _ => none
    | _ => none

end

/-- A document that is being read: its tables, and the path of the last header. -/
structure Draft where
  root : Entries := []
  header : List String := []

def Draft.set (d : Draft) (path : List String) (v : Json) : Option Draft := do
  let root ← descend false (setDotted path v) d.header .defined d.root
  some { d with root }

def stepsOf (cs : List Char) : Nat := 2 * cs.length + 2

def line? (d : Draft) (cs : List Char) : Option (Draft × List Char) :=
  match cs with
  | '[' :: '[' :: rest => do
    let (path, rest) ← path? depthLimit rest
    match rest with
    | ']' :: ']' :: rest => do
      let root ← openListed path d.root
      some (⟨root, path⟩, ← endLine? rest)
    | _ => none
  | '[' :: rest => do
    let (path, rest) ← path? depthLimit rest
    match rest with
    | ']' :: rest => do
      let root ← openTable path d.root
      some (⟨root, path⟩, ← endLine? rest)
    | _ => none
  | _ => do
    let (path, rest) ← path? depthLimit cs
    match rest with
    | '=' :: rest => do
      let rest := skipGaps rest
      let (v, rest) ← value? (stepsOf rest) depthLimit rest
      some (← d.set path v, ← endLine? rest)
    | _ => none

def lines? : Nat → Draft → List Char → Option Draft
  | 0, _, _ => none
  | fuel + 1, d, cs =>
    match skipLines false cs with
    | [] => some d
    | rest => do
      let (d, after) ← line? d rest
      lines? fuel d after

/-- Reads a text as JSON, if it is TOML; a byte order mark may stand in front. -/
def read? (text : String) : Option Json :=
  let cs := match text.toList with
    | '\uFEFF' :: rest => rest
    | cs => cs
  (lines? (cs.length + 1) {} cs).map fun d => (Node.table .defined d.root).toJson

end Geoflow.Toml
