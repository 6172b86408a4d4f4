import Geoflow.Proofs.Text.Occurrence
import Geoflow.Proofs.Url.Authority
import Geoflow.Proofs.Url.Decode

set_option autoImplicit false

namespace Geoflow

namespace Percent

variable {front cs : List Char} {escaped : Escaped}

theorem encode_append (escaped : Escaped) (front back : List Char) :
    encode escaped (front ++ back) = encode escaped front ++ encode escaped back := by
  rw [encode, Utf8.encode, List.flatMap_append, List.flatMap_append]
  rfl

/-- Each character that is left out shortens what is written by one character at least. -/
theorem length_encode_of_sublist (escaped : Escaped) (inside : front.Sublist cs) :
    (encode escaped front).length + cs.length ≤ (encode escaped cs).length + front.length := by
  induction inside with
  | slnil => simp
  | @cons front cs c inside ih =>
    have some : encode escaped [c] ≠ [] := encode_ne_nil (by simp)
    have written := List.length_pos_iff.mpr some
    rw [← List.singleton_append, encode_append, List.length_append, List.length_append,
      List.length_singleton]
    omega
  | @cons_cons front cs c inside ih =>
    rw [← List.singleton_append, ← List.singleton_append (l := cs), encode_append, encode_append]
    simp only [List.length_append]
    omega

/-- A part of a text that is written as the whole text is the whole text. -/
theorem eq_of_encode_eq (inside : front.Sublist cs)
    (same : encode escaped front = encode escaped cs) : front = cs := by
  have lengths := length_encode_of_sublist escaped inside
  rw [same] at lengths
  apply inside.eq_of_length_le
  omega

theorem head?_of_encode_eq_bracket {more : List Char} (written : encode controls cs = '[' :: more) :
    cs.head? = some '[' := by
  cases cs with
  | nil => cases written
  | cons c cs =>
    have some : encode controls [c] ≠ [] := encode_ne_nil (by simp)
    obtain ⟨d, ds, first⟩ := List.exists_cons_of_ne_nil some
    rw [← List.singleton_append, encode_append, first] at written
    have bracket : d = '[' := (List.cons.inj written).1
    have mem : '[' ∈ encode controls [c] := by
      rw [first, bracket]
      exact List.mem_cons_self
    have inText := (mem_encode covers_controls mem rfl).1
    rw [List.mem_singleton.mp inText]
    rfl

end Percent

namespace Ipv6

variable {cs rest : List Char} {c : Char} {p found : Pieces} {ns : List Nat}

/-- The characters that addresses are written with. -/
def isAddressChar (c : Char) : Bool := (Hex.charValue? c).isSome || c == ':' || c == '.'

theorem isAddressChar_of_hex (digit : (Hex.charValue? c).isSome = true) :
    isAddressChar c = true := by
  simp [isAddressChar, digit]

theorem isAddressChar_of_isDigit (digit : Numeral.isDigit c = true) : isAddressChar c = true := by
  apply isAddressChar_of_hex
  rw [Percent.isSome_charValue?_iff]
  simp only [Numeral.isDigit, Bool.and_eq_true, decide_eq_true_eq, Char.le_def,
    UInt32.le_iff_toNat_le] at digit
  exact Or.inl digit

theorem takeHex_append (limit : Nat) (cs : List Char) : ∃ front,
    cs = front ++ (takeHex limit cs).2 ∧ ∀ c ∈ front, isAddressChar c = true := by
  fun_induction takeHex limit cs with
  | case1 limit c rest d digit ds after taken ih =>
    obtain ⟨front, parts, inside⟩ := ih
    rw [taken] at parts
    have first : isAddressChar c = true := isAddressChar_of_hex (by rw [digit]; rfl)
    exact ⟨c :: front, congrArg (c :: ·) parts, List.forall_mem_cons.mpr ⟨first, inside⟩⟩
  | case2 | case3 => exact ⟨[], rfl, by simp⟩

theorem isAddressChar_of_readByte? {n : Nat} (read : readByte? cs = some n) :
    ∀ c ∈ cs, isAddressChar c = true := by
  unfold readByte? at read
  split at read
  · cases read
  · exact List.forall_mem_singleton.mpr rfl
  · cases read
  · rw [Option.filter_eq_some_iff, Numeral.readNat?_eq_some_iff] at read
    intro c mem
    exact isAddressChar_of_isDigit (read.1.2.1 c mem)

theorem isAddressChar_of_readDotted? (read : readDotted? cs = some ns) :
    ∀ c ∈ cs, isAddressChar c = true := by
  unfold readDotted? at read
  split at read
  · rename_i a b c d parts
    simp only [Option.bind_eq_bind, Option.bind_eq_some_iff] at read
    obtain ⟨_, readA, _, readB, _, readC, _, readD, -⟩ := read
    intro e mem
    rcases Text.mem_splitAt '.' mem with rfl | ⟨part, listed, inside⟩
    · decide
    · rw [parts] at listed
      simp only [List.mem_cons, List.not_mem_nil, or_false] at listed
      rcases listed with rfl | rfl | rfl | rfl
      · exact isAddressChar_of_readByte? readA e inside
      · exact isAddressChar_of_readByte? readB e inside
      · exact isAddressChar_of_readByte? readC e inside
      · exact isAddressChar_of_readByte? readD e inside
  · cases read

theorem isAddressChar_of_takeHex {limit : Nat} {ds : List Nat}
    (taken : takeHex limit cs = (ds, rest)) (behind : ∀ c ∈ rest, isAddressChar c = true) :
    ∀ c ∈ cs, isAddressChar c = true := by
  obtain ⟨front, parts, inside⟩ := takeHex_append limit cs
  rw [taken] at parts
  rw [parts]
  exact List.forall_mem_append.mpr ⟨inside, behind⟩

/-- Nothing else stands in a text that is read as pieces. -/
theorem isAddressChar_of_readPieces? {fuel : Nat} (read : readPieces? fuel p cs = some found) :
    ∀ c ∈ cs, isAddressChar c = true := by
  have colon : isAddressChar ':' = true := by decide
  fun_induction readPieces? fuel p cs with
  | case1 => simp
  | case5 _ _ _ _ _ ih => exact List.forall_mem_cons.mpr ⟨colon, ih read⟩
  | case6 _ _ _ _ _ _ _ _ taken => exact isAddressChar_of_takeHex taken (by simp)
  | case8 _ _ _ _ _ _ _ _ _ _ taken ih =>
    exact isAddressChar_of_takeHex taken (List.forall_mem_cons.mpr ⟨colon, ih read⟩)
  | case10 =>
    obtain ⟨pieces, dotted, -⟩ := Option.map_eq_some_iff.mp read
    exact isAddressChar_of_readDotted? dotted
  | case2 | case3 | case4 | case7 | case9 | case11 => cases read

theorem isAddressChar_of_read? (read : read? cs = some ns) : ∀ c ∈ cs, isAddressChar c = true := by
  have colon : isAddressChar ':' = true := by decide
  simp only [read?, Option.bind_eq_bind, Option.bind_eq_some_iff] at read
  obtain ⟨⟨start, rest⟩, starts, pieces, readRest, -⟩ := read
  have inRest := isAddressChar_of_readPieces? readRest
  split at starts
  · cases starts
    exact List.forall_mem_cons.mpr ⟨colon, List.forall_mem_cons.mpr ⟨colon, inRest⟩⟩
  · cases starts
  · cases starts
  · cases starts
  · cases starts
    exact inRest

end Ipv6

namespace Url

variable {c : Char} {cs host text rest after : List Char} {n : Nat}

/-- A host with its written form: a name without forbidden characters, or an address in brackets. -/
inductive IsHost : List Char → List Char → Prop
  | name {cs : List Char} (some : cs ≠ []) (allowed : ∀ c ∈ cs, isForbiddenInHost c = false) :
    IsHost cs (Percent.encode Percent.controls cs)
  | address {inner : List Char} {ns : List Nat} (read : Ipv6.read? inner = some ns) :
    IsHost ('[' :: inner ++ [']']) ('[' :: Ipv6.render ns ++ [']'])

theorem IsHost.ne_nil (isHost : IsHost cs text) : text ≠ [] := by
  cases isHost with
  | name some => exact Percent.encode_ne_nil some
  | address => simp

/-- A text is read as a host exactly if it is empty or one. -/
theorem readOpaqueHost_eq_ok_iff :
    readOpaqueHost cs = .ok text ↔ (cs = [] ∧ text = []) ∨ IsHost cs text := by
  constructor
  · intro read
    unfold readOpaqueHost at read
    split at read
    · rename_i rest
      split at read
      · rename_i closed
        split at read
        · rename_i ns address
          cases read
          have whole : rest.dropLast ++ [']'] = rest := List.dropLast_append_getLast? _ closed
          have isHost := IsHost.address address
          rw [List.cons_append, whole] at isHost
          exact Or.inr isHost
        · cases read
      · cases read
    · split at read
      · cases read
      · rename_i allowed
        cases read
        by_cases empty : cs = []
        · subst empty
          exact Or.inl ⟨rfl, rfl⟩
        · apply Or.inr
          apply IsHost.name empty
          intro c mem
          exact Bool.eq_false_iff.mpr fun inside => allowed (List.any_eq_true.mpr ⟨c, mem, inside⟩)
  · rintro (⟨rfl, rfl⟩ | isHost)
    · rfl
    · cases isHost with
      | name some allowed =>
        unfold readOpaqueHost
        split
        · cases allowed '[' List.mem_cons_self
        · rw [if_neg]
          intro inside
          obtain ⟨c, mem, isForbidden⟩ := List.any_eq_true.mp inside
          rw [allowed c mem] at isForbidden
          cases isForbidden
      | @address inner ns read => simp [readOpaqueHost, read]

theorem isHost_of_readOpaqueHost (read : readOpaqueHost cs = .ok text) (some : text ≠ []) :
    IsHost cs text := by
  rcases readOpaqueHost_eq_ok_iff.mp read with empty | isHost
  · exact absurd empty.2 some
  · exact isHost

/-- A host, as given or as written, ends in a bracket or has no colon. -/
theorem IsHost.closed (isHost : IsHost host text) :
    ∀ cs, cs = host ∨ cs = text → cs.getLast? = some ']' ∨ ':' ∉ cs := by
  intro cs either
  cases isHost with
  | name _ allowed =>
    apply Or.inr
    intro mem
    have inHost : ':' ∈ host := by
      rcases either with rfl | rfl
      · exact mem
      · exact (Percent.mem_encode Percent.covers_controls mem rfl).1
    cases allowed ':' inHost
  | address =>
    apply Or.inl
    rcases either with rfl | rfl <;> exact List.getLast?_concat

theorem not_closed_append_port (cs : List Char) (n : Nat) :
    ¬((cs ++ ':' :: Numeral.digits n).getLast? = some ']' ∨
      ':' ∉ cs ++ ':' :: Numeral.digits n) := by
  intro closed
  rcases closed with last | absent
  · have inPort : (Numeral.digits n).getLast? = some ']' := by
      rw [List.getLast?_append_cons, List.getLast?_cons_of_ne_nil (Numeral.digits_ne_nil n)] at last
      exact last
    cases Numeral.isDigit_of_mem_digits (List.mem_of_getLast? inPort)
  · apply absent
    simp

/-- A host is split off in front of a colon, and nothing is lost. -/
theorem splitHost_append (inBrackets : Bool) (cs : List Char) :
    (splitHost inBrackets cs).1 ++ (splitHost inBrackets cs).2 = cs ∧
      ∀ c ∈ (splitHost inBrackets cs).2.head?, c = ':' := by
  fun_induction splitHost inBrackets cs with
  | case1 => simp
  | case2 inBrackets c rest stops => simp [stops.1]
  | case3 inBrackets c rest goesOn inside host after parts ih => simpa [parts] using ih

theorem splitHost_true_append (inside : ∀ c ∈ host, c ≠ '[' ∧ c ≠ ']') (rest : List Char) :
    splitHost true (host ++ ']' :: rest) =
      (host ++ ']' :: (splitHost false rest).1, (splitHost false rest).2) := by
  induction host with
  | nil => simp [splitHost]
  | cons c host ih =>
    obtain ⟨⟨notOpen, notClosed⟩, later⟩ := List.forall_mem_cons.mp inside
    simp [splitHost, notOpen, notClosed, ih later]

theorem splitHost_of_allowed (allowed : ∀ c ∈ host, isForbiddenInHost c = false) :
    splitHost false (host ++ ':' :: rest) = (host, ':' :: rest) := by
  induction host with
  | nil => simp [splitHost]
  | cons c host ih =>
    obtain ⟨first, later⟩ := List.forall_mem_cons.mp allowed
    have notColon : c ≠ ':' := fun same => by subst same; cases first
    have notOpen : c ≠ '[' := fun same => by subst same; cases first
    have notClosed : c ≠ ']' := fun same => by subst same; cases first
    simp [splitHost, notColon, notOpen, notClosed, ih later]

/-- A whole host stands in front of the colon behind it. -/
theorem IsHost.splitHost (isHost : IsHost host text) (rest : List Char) :
    splitHost false (host ++ ':' :: rest) = (host, ':' :: rest) := by
  cases isHost with
  | name _ allowed => exact splitHost_of_allowed allowed
  | @address inner ns read =>
    have inside : ∀ c ∈ inner, c ≠ '[' ∧ c ≠ ']' := by
      intro c mem
      have isAddressChar := Ipv6.isAddressChar_of_read? read c mem
      constructor
      · intro same
        subst same
        cases isAddressChar
      · intro same
        subst same
        cases isAddressChar
    have behind := splitHost_true_append inside (':' :: rest)
    simp [Url.splitHost] at behind ⊢
    simp [behind]

theorem colon_not_mem_digits (n : Nat) : ':' ∉ Numeral.digits n := by
  intro mem
  cases Numeral.isDigit_of_mem_digits mem

theorem readPort_digits (small : n ≤ maxPort) :
    readPort (':' :: Numeral.digits n) = .ok (some n, []) := by
  have digits : ∀ c ∈ Numeral.digits n, Numeral.isDigit c = true :=
    fun c mem => Numeral.isDigit_of_mem_digits mem
  have taken : (Numeral.digits n).takeWhile Numeral.isDigit = Numeral.digits n :=
    List.takeWhile_eq_self_iff.mpr digits
  have dropped : (Numeral.digits n).dropWhile Numeral.isDigit = [] :=
    List.dropWhile_eq_nil_iff.mpr digits
  have some : (Numeral.digits n).isEmpty = false := by simp [Numeral.digits_ne_nil]
  simp [readPort, taken, dropped, Numeral.value_digits, some, Nat.not_lt.mpr small]

/-- Behind the digits of a port there is nothing, or a backslash. -/
theorem exists_digits_of_readPort {port : Option Nat}
    (read : readPort (':' :: rest) = .ok (port, after)) : ∃ ds, rest = ds ++ after ∧
      (∀ c ∈ ds, Numeral.isDigit c = true) ∧ ∀ c ∈ after.head?, c = '\\' := by
  rw [readPort] at read
  split at read
  · cases read
  · rename_i whole
    cases read
    refine ⟨rest.takeWhile Numeral.isDigit, List.takeWhile_append_dropWhile.symm, ?_, ?_⟩
    · intro c mem
      exact List.mem_takeWhile_imp mem
    · intro c first
      have backslash := (not_or.mp whole).2
      rw [Option.mem_def.mp first] at backslash
      simpa using backslash

/-- Without a backslash a port is digits and nothing else. -/
theorem colon_not_mem_of_readPort {port : Option Nat}
    (read : readPort (':' :: rest) = .ok (port, after)) (absent : '\\' ∉ rest) : ':' ∉ rest := by
  obtain ⟨ds, split, digits, backslash⟩ := exists_digits_of_readPort read
  have nothing : after = [] := by
    cases after with
    | nil => rfl
    | cons c more =>
      apply absurd _ absent
      rw [split, backslash c rfl]
      simp
  rw [split, nothing, List.append_nil]
  intro mem
  cases digits ':' mem

theorem splitUser_sublist (cs : List Char) : (splitUser cs).2.Sublist cs := by
  unfold splitUser
  dsimp only
  split
  · exact List.Sublist.refl cs
  · have taken := (List.takeWhile_sublist (l := cs.reverse) (· != '@')).reverse
    rw [List.reverse_reverse] at taken
    exact taken

theorem Authority.exists_server {ends : Char → Bool}
    {readHost : List Char → Except AddressFault (List Char)} {authority : Authority}
    (read : Authority.read ends readHost cs = .ok authority) : ∃ host behind after,
      host ++ behind = (splitUser (cs.takeWhile fun c => !ends c)).2 ∧
      (∀ c ∈ behind.head?, c = ':') ∧ readHost host = .ok authority.host ∧
      readPort behind = .ok (authority.port, after) := by
  simp only [Authority.read, guard_eq_ok_iff, bind_eq_ok_iff] at read
  obtain ⟨-, host, fromText, -, ⟨port, after⟩, fromPort, -, whole⟩ := read
  cases whole
  have parts := splitHost_append false (splitUser (cs.takeWhile fun c => !ends c)).2
  exact ⟨_, _, after, parts.1, parts.2, fromText, fromPort⟩

/-- The characters that no host has but that do not keep every text with them from being read. They
are passed over, or what stands on one side of them goes into another part. -/
def diverting : List Char := ['\t', '\n', '\r', '@', '/', '?', '#', '\\']

theorem not_mem_diverting {p : Char → Bool} (all : diverting.all p = true) (other : p c = false) :
    c ∉ diverting := by
  intro mem
  rw [List.all_eq_true.mp all c mem] at other
  cases other

theorem isBreak_of_not_mem_diverting (other : c ∉ diverting) : isBreak c = false := by
  apply Bool.eq_false_iff.mpr
  intro inside
  apply other
  rcases isBreak_iff.mp inside with rfl | rfl | rfl | rfl <;> decide

theorem isIgnored_of_not_mem_diverting (other : c ∉ diverting) : isIgnored c = false := by
  apply Bool.eq_false_iff.mpr
  intro inside
  simp only [isIgnored, Bool.or_eq_true, beq_iff_eq, or_assoc] at inside
  apply other
  rcases inside with rfl | rfl | rfl <;> decide

theorem IsHost.not_diverting (isHost : IsHost host text) : ∀ c ∈ host, c ∉ diverting := by
  intro c mem
  cases isHost with
  | name _ allowed => exact not_mem_diverting (p := isForbiddenInHost) rfl (allowed c mem)
  | @address inner ns read =>
    rcases List.mem_append.mp mem with front | last
    · rcases List.mem_cons.mp front with rfl | inside
      · decide
      · have addressChar := Ipv6.isAddressChar_of_read? read c inside
        apply not_mem_diverting (p := fun c => !Ipv6.isAddressChar c) rfl
        rw [addressChar, Bool.not_true]
    · rw [List.mem_singleton.mp last]
      decide

theorem digits_not_diverting (n : Nat) : ∀ c ∈ Numeral.digits n, c ∉ diverting := by
  intro c mem
  apply not_mem_diverting (p := fun c => !Numeral.isDigit c) rfl
  rw [Numeral.isDigit_of_mem_digits mem, Bool.not_true]

/-- The text of a host and a port is all host and port. -/
theorem unbroken_host_port (whole : ∀ c ∈ host, c ∉ diverting) (n : Nat) :
    Unbroken (host ++ ':' :: Numeral.digits n) := by
  have colon : isBreak ':' = false := rfl
  have inHost : Unbroken host := fun c mem => isBreak_of_not_mem_diverting (whole c mem)
  exact inHost.append (.cons colon (unbroken_toDigits (by omega) n))

theorem splitUser_of_unbroken (unbroken : Unbroken cs) :
    splitUser (cs.takeWhile fun c => !endsAuthority c) = (none, cs) := by
  have inside : ∀ c ∈ cs, (!endsAuthority c) = true := by
    intro c mem
    rw [(Bool.or_eq_false_iff.mp (unbroken c mem)).2, Bool.not_false]
  rw [List.takeWhile_eq_self_iff.mpr inside, splitUser_of_not_mem unbroken.not_mem_at]

/-- A host with a port is read as that host and that port. -/
theorem IsHost.read_authority (isHost : IsHost host text) (small : n ≤ maxPort) :
    Authority.read endsAuthority readOpaqueHost (host ++ ':' :: Numeral.digits n) =
      .ok ⟨text, some n, []⟩ := by
  have unbroken := unbroken_host_port isHost.not_diverting n
  have inside : ∀ c ∈ host ++ ':' :: Numeral.digits n, (!endsAuthority c) = true := by
    intro c mem
    rw [(Bool.or_eq_false_iff.mp (unbroken c mem)).2, Bool.not_false]
  have noTail := List.dropWhile_eq_nil_iff.mpr inside
  have fromHost : readOpaqueHost host = .ok text := readOpaqueHost_eq_ok_iff.mpr (Or.inr isHost)
  simp only [Authority.read, splitUser_of_unbroken unbroken, noTail, isHost.splitHost, fromHost,
    readPort_digits small]
  simp [isHost.ne_nil, bind, Except.bind, pure, Except.pure]

end Url

end Geoflow
