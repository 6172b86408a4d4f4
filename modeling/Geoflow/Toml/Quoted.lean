import Geoflow.Text.Hex
import Geoflow.Toml.Scan

set_option autoImplicit false

namespace Geoflow.Toml

def escapeChar? (c : Char) : Option Char :=
  match c with
  | '"' => some '"'
  | '\\' => some '\\'
  | 'b' => some '\x08'
  | 'f' => some '\x0c'
  | 'n' => some '\n'
  | 'r' => some '\r'
  | 't' => some '\t'
  | _ => none

def hexNumber? (digits : List Char) : Option Nat :=
  (digits.mapM Hex.charValue?).map fun values => values.foldl (fun n d => 16 * n + d) 0

/-- The character of a code point in hexadecimal digits; surrogates are none. -/
def codePoint? (digits : List Char) : Option Char := do
  let n ← hexNumber? digits
  if n < 0xD800 ∨ (0xE000 ≤ n ∧ n < 0x110000) then some (Char.ofNat n) else none

def consText (c : Char) (r : List Char × List Char) : List Char × List Char := (c :: r.1, r.2)

def basic? : List Char → Option (List Char × List Char)
  | '"' :: rest => some ([], rest)
  | '\\' :: 'u' :: a :: b :: c :: d :: rest => do
    let point ← codePoint? [a, b, c, d]
    consText point <$> basic? rest
  | '\\' :: 'U' :: a :: b :: c :: d :: e :: f :: g :: h :: rest => do
    let point ← codePoint? [a, b, c, d, e, f, g, h]
    consText point <$> basic? rest
  | '\\' :: e :: rest => do
    let c ← escapeChar? e
    consText c <$> basic? rest
  | c :: rest => if isPlain c ∧ c ≠ '\\' then consText c <$> basic? rest else none
  | [] => none

def literal? : List Char → Option (List Char × List Char)
  | '\'' :: rest => some ([], rest)
  | c :: rest => if isPlain c then consText c <$> literal? rest else none
  | [] => none

inductive Fold where
  /-- At no such backslash. -/
  | none
  /-- After it, on the same line. -/
  | before
  /-- After its line. -/
  | after
  deriving DecidableEq, Repr

/-- The end of a text in tripled marks: up to two marks before the last three belong to it. -/
def closing (mark : Char) (rest : List Char) : List Char × List Char :=
  match rest with
  | a :: b :: after => if a = mark ∧ b = mark then ([a, b], after)
    else if a = mark then ([a], b :: after) else ([], rest)
  | [a] => if a = mark then ([a], []) else ([], rest)
  | [] => ([], [])

/-- Text of several lines in quotation marks, where a backslash at the end of a line takes all
blanks after it away. -/
def longBasic? : Fold → List Char → Option (List Char × List Char)
  | .before, '\n' :: rest => longBasic? .after rest
  | .before, '\r' :: '\n' :: rest => longBasic? .after rest
  | .before, c :: rest => if isGap c then longBasic? .before rest else none
  | .after, '\n' :: rest => longBasic? .after rest
  | .after, '\r' :: '\n' :: rest => longBasic? .after rest
  | _, '"' :: '"' :: '"' :: rest => some (closing '"' rest)
  | _, '\\' :: 'u' :: a :: b :: c :: d :: rest => do
    let point ← codePoint? [a, b, c, d]
    consText point <$> longBasic? .none rest
  | _, '\\' :: 'U' :: a :: b :: c :: d :: e :: f :: g :: h :: rest => do
    let point ← codePoint? [a, b, c, d, e, f, g, h]
    consText point <$> longBasic? .none rest
  | _, '\\' :: '\n' :: rest => longBasic? .after rest
  | _, '\\' :: '\r' :: '\n' :: rest => longBasic? .after rest
  | _, '\\' :: e :: rest =>
    if isGap e then longBasic? .before rest
    else do
      let c ← escapeChar? e
      consText c <$> longBasic? .none rest
  | _, '\n' :: rest => consText '\n' <$> longBasic? .none rest
  | _, '\r' :: '\n' :: rest => consText '\n' <$> longBasic? .none rest
  | fold, c :: rest =>
    if fold = .after ∧ isGap c then longBasic? .after rest
    else if isPlain c ∧ c ≠ '\\' then consText c <$> longBasic? .none rest
    else none
  | _, [] => none

def longLiteral? : List Char → Option (List Char × List Char)
  | '\'' :: '\'' :: '\'' :: rest => some (closing '\'' rest)
  | '\n' :: rest => consText '\n' <$> longLiteral? rest
  | '\r' :: '\n' :: rest => consText '\n' <$> longLiteral? rest
  | c :: rest => if isPlain c then consText c <$> longLiteral? rest else none
  | [] => none

def dropNewline (cs : List Char) : List Char := (newline? cs).getD cs

def string? : List Char → Option (List Char × List Char)
  | '"' :: '"' :: '"' :: rest => longBasic? .none (dropNewline rest)
  | '"' :: rest => basic? rest
  | '\'' :: '\'' :: '\'' :: rest => longLiteral? (dropNewline rest)
  | '\'' :: rest => literal? rest
  | _ => none

end Geoflow.Toml
