import Geoflow.Numeral
import Geoflow.Text.Blank
import Geoflow.Text.Hex

set_option autoImplicit false

namespace Geoflow.Ipv6

def readByte? (cs : List Char) : Option Nat :=
  match cs with
  | [] => none
  | ['0'] => some 0
  | '0' :: _ => none
  | _ => (Numeral.readNat? cs).filter (· ≤ 255)

def readDotted? (cs : List Char) : Option (List Nat) :=
  match Text.splitAt '.' cs with
  | [a, b, c, d] => do
    let a ← readByte? a
    let b ← readByte? b
    let c ← readByte? c
    let d ← readByte? d
    return [a * 256 + b, c * 256 + d]
  | _ => none

def takeHex : Nat → List Char → List Nat × List Char
  | limit + 1, c :: rest =>
    match Hex.charValue? c with
    | some d =>
      let (ds, after) := takeHex limit rest
      (d :: ds, after)
    | none => ([], c :: rest)
  | _, cs => ([], cs)

/-- The pieces before and after the place where zeros were left out, if they were. -/
structure Pieces where
  before : List Nat
  after : Option (List Nat)

namespace Pieces

def count (p : Pieces) : Nat := p.before.length + (p.after.getD []).length

def push (p : Pieces) (ns : List Nat) : Pieces :=
  match p.after with
  | none => { p with before := p.before ++ ns }
  | some after => { p with after := some (after ++ ns) }

end Pieces

/-- Reads pieces to the end of the text. A left out run stands for one zero at least. -/
def readPieces? : Nat → Pieces → List Char → Option Pieces
  | _, p, [] => some p
  | 0, _, _ => none
  | fuel + 1, p, c :: rest =>
    if p.count = 8 then none
    else if c = ':' then
      if p.after.isSome then none
      else readPieces? fuel ⟨p.before ++ [0], some []⟩ rest
    else
      let (ds, tail) := takeHex 4 (c :: rest)
      let piece := ds.foldl (fun n d => n * 16 + d) 0
      match tail with
      | [] => some (p.push [piece])
      | ':' :: more => if more.isEmpty then none else readPieces? fuel (p.push [piece]) more
      | '.' :: _ =>
        if ds.isEmpty ∨ 6 < p.count then none
        else (readDotted? (c :: rest)).map p.push
      | _ => none

def read? (cs : List Char) : Option (List Nat) := do
  let start : Option (Pieces × List Char) := match cs with
    | ':' :: ':' :: rest => some (⟨[0], some []⟩, rest)
    | ':' :: _ => none
    | [] => none
    | [_] => none
    | _ => some (⟨[], none⟩, cs)
  let (p, rest) ← start
  let p ← readPieces? rest.length p rest
  match p.after with
  | none => if p.before.length = 8 then return p.before else none
  | some after =>
    if p.count ≤ 8 then return p.before ++ List.replicate (8 - p.count) 0 ++ after else none

def zeroRun (ns : List Nat) : Nat := (ns.takeWhile (· == 0)).length

def longestRun (ns : List Nat) : Nat × Nat :=
  (List.range ns.length).foldl
    (fun best i => if best.2 < zeroRun (ns.drop i) then (i, zeroRun (ns.drop i)) else best) (0, 0)

def pieceText (n : Nat) : List Char := Nat.toDigits 16 n

/-- The normal form of an address, which leaves out the first longest run of two or more zeros. -/
def render (ns : List Nat) : List Char :=
  let (start, length) := longestRun ns
  if length < 2 then Text.joined [':'] (ns.map pieceText)
  else
    Text.joined [':'] ((ns.take start).map pieceText) ++ [':', ':']
      ++ Text.joined [':'] ((ns.drop (start + length)).map pieceText)

end Geoflow.Ipv6
