import Geoflow.Proofs.Settings.Form

set_option autoImplicit false

namespace Geoflow.Variable

open Toml (isBareChar)

variable {cs rest front w : List Char} {c : Char} {v : Json} {fuel : Nat}

theorem forall_head?_append {p : Char → Prop} (inFront : ∀ c, front.head? = some c → p c)
    (behind : front = [] → ∀ c, rest.head? = some c → p c) :
    ∀ c, (front ++ rest).head? = some c → p c := by
  cases front with
  | nil => exact behind rfl
  | cons d front => exact inFront

theorem takeWhile_span {p : Char → Bool} (inside : ∀ c ∈ front, p c = true)
    (ends : ∀ c, rest.head? = some c → p c = false) : (front ++ rest).takeWhile p = front := by
  rw [List.takeWhile_append_of_pos inside]
  cases rest with
  | nil => simp
  | cons c rest => simp [ends c rfl]

theorem dropWhile_span {p : Char → Bool} (inside : ∀ c ∈ front, p c = true)
    (ends : ∀ c, rest.head? = some c → p c = false) : (front ++ rest).dropWhile p = rest := by
  rw [List.dropWhile_append_of_pos inside]
  cases rest with
  | nil => rfl
  | cons c rest => simp [ends c rfl]

theorem skipBlanks_append (blanks : Blanks front) (rest : List Char) :
    skipBlanks (front ++ rest) = skipBlanks rest :=
  List.dropWhile_append_of_pos blanks

theorem skipBlanks_of_solid (solid : ∀ c, rest.head? = some c → isBlank c = false) :
    skipBlanks rest = rest := by
  cases rest with
  | nil => rfl
  | cons c rest => exact List.dropWhile_cons_of_neg (by simp [solid c rfl])

theorem exists_blanks (cs : List Char) : ∃ front, Blanks front ∧ cs = front ++ skipBlanks cs :=
  ⟨cs.takeWhile isBlank, fun _ mem => List.mem_takeWhile_imp mem,
    List.takeWhile_append_dropWhile.symm⟩

def core? (fuel : Nat) (cs : List Char) : Option (Json × List Char) :=
  match afterWord? "true".toList cs, afterWord? "false".toList cs, cs with
  | some rest, _, _ => some (.bool true, rest)
  | none, some rest, _ => some (.bool false, rest)
  | none, none, '{' :: rest => (entries? fuel rest).map fun found => (.ofEntries found.1, found.2)
  | none, none, '[' :: rest => (items? fuel rest).map fun found => (.arr found.1, found.2)
  | none, none, '"' :: rest => (Toml.basic? rest).map fun found => (.str (.ofList found.1), found.2)
  | none, none, '\'' :: c :: '\'' :: after => some (.str (String.singleton c), after)
  | none, none, '\'' :: _ => none
  | none, none, _ => some (word (cs.takeWhile (!isMark ·)), cs.dropWhile (!isMark ·))

theorem value?_succ (fuel : Nat) (cs : List Char) :
    value? (fuel + 1) cs =
      (core? fuel (skipBlanks cs)).map fun found => (found.1, skipBlanks found.2) := by
  rw [value?.eq_2]
  unfold core?
  generalize skipBlanks cs = cs
  generalize afterWord? "true".toList cs = yes, afterWord? "false".toList cs = no
  dsimp only
  split <;> simp [quoted?, Option.map_eq_bind, Option.bind_assoc]

theorem afterWord?_eq_some_iff {word : List Char} :
    afterWord? word cs = some rest ↔ cs = word ++ rest := by
  unfold afterWord?
  constructor
  · intro found
    split at found
    · rename_i starts
      cases found
      exact (List.prefix_iff_eq_append.mp (List.isPrefixOf_iff_prefix.mp starts)).symm
    · cases found
  · rintro rfl
    rw [if_pos (List.isPrefixOf_iff_prefix.mpr (List.prefix_append word rest)), List.drop_left]

theorem afterWord?_eq_none_iff {word : List Char} :
    afterWord? word cs = none ↔ ¬ word <+: cs := by
  unfold afterWord?
  rw [← List.isPrefixOf_iff_prefix]
  split <;> simp_all

/-- What may stand behind a value: a comma or a closing mark, or nothing. -/
def Stops (rest : List Char) : Prop := ∀ c, rest.head? = some c → c = ',' ∨ c = ']' ∨ c = '}'

theorem stops_nil : Stops [] := nofun

theorem stops_cons (stop : c = ',' ∨ c = ']' ∨ c = '}') (rest : List Char) : Stops (c :: rest) := by
  intro d head
  cases head
  exact stop

theorem Stops.mark (stops : Stops rest) (head : rest.head? = some c) : isMark c = true := by
  obtain rfl | rfl | rfl := stops c head <;> rfl

theorem not_isBlank_of_isMark (mark : isMark c = true) : isBlank c = false := by
  simp only [isMark, Bool.or_eq_true, beq_iff_eq] at mark
  obtain (((rfl | rfl) | rfl) | rfl) | rfl := mark <;> rfl

theorem Stops.solid (stops : Stops rest) : skipBlanks rest = rest := by
  apply skipBlanks_of_solid
  intro c head
  exact not_isBlank_of_isMark (stops.mark head)

/-- Where a value stops, no word goes on. -/
theorem Stops.prefix_of_prefix (stops : Stops rest) {word : List Char}
    (noMark : ∀ c ∈ word, isMark c = false) (starts : word <+: w ++ rest) : word <+: w := by
  by_cases short : word.length ≤ w.length
  · exact List.prefix_of_prefix_length_le starts (List.prefix_append w rest) short
  · obtain ⟨more, rfl⟩ :=
      List.prefix_of_prefix_length_le (List.prefix_append w rest) starts (by omega)
    rw [List.prefix_append_right_inj] at starts
    cases more with
    | nil => simp
    | cons c more =>
      obtain ⟨tail, rfl⟩ := starts
      have mark := stops.mark rfl
      rw [noMark c (by simp)] at mark
      cases mark

theorem core?_of_plain (noTrue : afterWord? "true".toList cs = none)
    (noFalse : afterWord? "false".toList cs = none)
    (plain : ∀ c, cs.head? = some c → c ≠ '{' ∧ c ≠ '[' ∧ c ≠ '"' ∧ c ≠ '\'') (fuel : Nat) :
    core? fuel cs = some (word (cs.takeWhile (!isMark ·)), cs.dropWhile (!isMark ·)) := by
  unfold core?
  rw [noTrue, noFalse]
  cases cs with
  | nil => rfl
  | cons c cs =>
    obtain ⟨noBrace, noBracket, noQuote, noTick⟩ := plain c rfl
    split <;> simp_all

theorem core?_word (isWord : IsWord w) (stops : Stops rest) (fuel : Nat) :
    core? fuel (w ++ rest) = some (word w, rest) := by
  have noTrue : afterWord? "true".toList (w ++ rest) = none :=
    afterWord?_eq_none_iff.mpr (mt (stops.prefix_of_prefix (by simp [isMark])) isWord.noTrue)
  have noFalse : afterWord? "false".toList (w ++ rest) = none :=
    afterWord?_eq_none_iff.mpr (mt (stops.prefix_of_prefix (by simp [isMark])) isWord.noFalse)
  have unmarked : ∀ c ∈ w, (!isMark c) = true := by
    intro c mem
    rw [isWord.noMark c mem]
    rfl
  have plain : ∀ c, (w ++ rest).head? = some c → c ≠ '{' ∧ c ≠ '[' ∧ c ≠ '"' ∧ c ≠ '\'' := by
    apply forall_head?_append
    · intro c head
      have noMark := isWord.noMark c (List.mem_of_head? head)
      obtain ⟨-, noQuote, noTick⟩ := isWord.solid c head
      refine ⟨?_, ?_, noQuote, noTick⟩
      all_goals
        rintro rfl
        cases noMark
    · intro _ c head
      obtain rfl | rfl | rfl := stops c head <;> decide
  have ends : ∀ c, rest.head? = some c → (!isMark c) = false := by
    intro c head
    rw [stops.mark head]
    rfl
  rw [core?_of_plain noTrue noFalse plain, takeWhile_span unmarked ends,
    dropWhile_span unmarked ends]

/-- No form starts with a blank or a closing mark. -/
theorem Form.exists_cons {core : List Char} (form : Form core v) :
    ∃ c tail, core = c :: tail ∧ isBlank c = false ∧ c ≠ ']' ∧ c ≠ '}' := by
  cases form <;> exact ⟨_, _, rfl, by decide⟩

theorem head_ne_of_blanks (blanks : Blanks front) (head : front.head? = some c) :
    c ≠ ']' ∧ c ≠ '}' := by
  have blank := blanks c (List.mem_of_head? head)
  constructor <;> (rintro rfl; cases blank)

theorem Means.head_ne (means : Means cs v) : ∀ c, cs.head? = some c → c ≠ ']' ∧ c ≠ '}' := by
  cases means with
  | @form before core after v blanks form behind =>
    obtain ⟨d, tail, rfl, -, noBracket, noBrace⟩ := form.exists_cons
    apply forall_head?_append
    · intro c head
      exact head_ne_of_blanks blanks head
    · rintro - _ ⟨⟩
      exact ⟨noBracket, noBrace⟩
  | @word before w v blanks isWord means =>
    apply forall_head?_append
    · intro c head
      exact head_ne_of_blanks blanks head
    · intro _ c head
      have noMark := isWord.noMark c (List.mem_of_head? head)
      constructor <;> (rintro rfl; cases noMark)

theorem Label.head_ne {name : String} (label : Label cs name) :
    ∀ c, cs.head? = some c → c ≠ '}' := by
  cases label with
  | @quoted before body text after blanks quoted behind =>
    apply forall_head?_append
    · intro c head
      exact (head_ne_of_blanks blanks head).2
    · rintro - _ ⟨⟩
      decide
  | @bare before name after blanks filled chars behind =>
    apply forall_head?_append
    · intro c head
      exact (head_ne_of_blanks blanks head).2
    · intro _
      apply forall_head?_append
      · intro c head
        have isName := chars c (List.mem_of_head? head)
        rintro rfl
        cases isName
      · intro none
        exact absurd none filled

theorem isBareChar_of_isBlank (blank : isBlank c = true) : isBareChar c = false := by
  simp only [isBlank, Bool.or_eq_true, beq_iff_eq] at blank
  obtain (((rfl | rfl) | rfl) | rfl) | rfl := blank <;> decide

theorem isBareChar_behind {after : List Char} (behind : Blanks after) :
    ∀ c, (after ++ '=' :: rest).head? = some c → isBareChar c = false := by
  apply forall_head?_append
  · intro c head
    exact isBareChar_of_isBlank (behind c (List.mem_of_head? head))
  · rintro - _ ⟨⟩
    decide

theorem name?_bare {name : List Char} (filled : name ≠ [])
    (chars : ∀ c ∈ name, isBareChar c = true)
    (ends : ∀ c, rest.head? = some c → isBareChar c = false) :
    name? (name ++ rest) = some (String.ofList name, rest) := by
  unfold name?
  split
  · rename_i tail start
    cases name with
    | nil => exact absurd rfl filled
    | cons d name =>
      cases start
      exact absurd (chars '"' List.mem_cons_self) (by decide)
  · dsimp only
    rw [takeWhile_span chars ends, dropWhile_span chars ends, if_neg (by simpa using filled)]

theorem exists_name?_of_label {name : String} (label : Label front name) (rest : List Char) :
    ∃ after, name? (skipBlanks (front ++ '=' :: rest)) = some (name, after) ∧
      skipBlanks after = '=' :: rest := by
  cases label with
  | @quoted before body text after blanks quoted behind =>
    refine ⟨after ++ '=' :: rest, ?_, skipBlanks_append behind _⟩
    rw [List.append_assoc, skipBlanks_append blanks, List.cons_append, List.append_assoc]
    change name? ('"' :: (body ++ (after ++ '=' :: rest))) = _
    rw [name?, quoted?, Toml.basic?_of_quoted quoted]
    rfl
  | @bare before name after blanks filled chars behind =>
    refine ⟨after ++ '=' :: rest, ?_, skipBlanks_append behind _⟩
    have solid : skipBlanks (name ++ (after ++ '=' :: rest)) = name ++ (after ++ '=' :: rest) := by
      apply skipBlanks_of_solid
      apply forall_head?_append
      · intro c head
        have bare := chars c (List.mem_of_head? head)
        by_contra blank
        rw [isBareChar_of_isBlank (by simpa using blank)] at bare
        cases bare
      · intro none
        exact absurd none filled
    rw [List.append_assoc, skipBlanks_append blanks, List.append_assoc, solid,
      name?_bare filled chars (isBareChar_behind behind)]

/-- All forms within a number of steps are read. -/
structure Complete (fuel : Nat) : Prop where
  value : ∀ {cs : List Char} {v : Json}, Means cs v → ∀ rest, Stops rest →
    2 * cs.length + 1 ≤ fuel → value? fuel (cs ++ rest) = some (v, rest)
  items : ∀ {cs : List Char} {vs : List Json}, Items cs vs → ∀ rest,
    2 * cs.length ≤ fuel → items? fuel (cs ++ rest) = some (vs, rest)
  entries : ∀ {cs : List Char} {vs : List (String × Json)}, Entries cs vs → ∀ rest,
    2 * cs.length ≤ fuel → entries? fuel (cs ++ rest) = some (vs, rest)

theorem Complete.core {core : List Char} (complete : Complete fuel) (form : Form core v)
    (rest : List Char) (enough : 2 * core.length ≤ fuel + 2) :
    core? fuel (core ++ rest) = some (v, rest) := by
  cases form with
  | yes =>
    unfold core?
    rw [afterWord?_eq_some_iff.mpr rfl]
  | no =>
    unfold core?
    rw [afterWord?_eq_some_iff.mpr rfl]
    rfl
  | @quoted body text quoted =>
    change (Toml.basic? (body ++ rest)).map _ = _
    rw [Toml.basic?_of_quoted quoted]
    rfl
  | single c => rfl
  | @list body items listed =>
    have inner := complete.items listed rest (by rw [List.length_cons] at enough; omega)
    change (items? fuel (body ++ rest)).map _ = _
    rw [inner]
    rfl
  | @settings body entries named =>
    have inner := complete.entries named rest (by rw [List.length_cons] at enough; omega)
    change (entries? fuel (body ++ rest)).map _ = _
    rw [inner]
    rfl

theorem Complete.value_succ (complete : Complete fuel) (means : Means cs v) (stops : Stops rest)
    (enough : 2 * cs.length + 1 ≤ fuel + 1) : value? (fuel + 1) (cs ++ rest) = some (v, rest) := by
  rw [value?_succ]
  cases means with
  | @form before core after v blanks form behind =>
    have solid : skipBlanks (core ++ (after ++ rest)) = core ++ (after ++ rest) := by
      obtain ⟨c, tail, rfl, solid, -⟩ := form.exists_cons
      apply skipBlanks_of_solid
      rintro _ ⟨⟩
      exact solid
    simp only [List.length_append] at enough
    rw [List.append_assoc, skipBlanks_append blanks, List.append_assoc, solid,
      complete.core form _ (by omega), Option.map_some, skipBlanks_append behind, stops.solid]
  | @word before w v blanks isWord means =>
    have solid : skipBlanks (w ++ rest) = w ++ rest := by
      apply skipBlanks_of_solid
      apply forall_head?_append
      · intro c head
        exact (isWord.solid c head).1
      · intro _ c head
        exact not_isBlank_of_isMark (stops.mark head)
    rw [List.append_assoc, skipBlanks_append blanks, solid, core?_word isWord stops,
      Option.map_some, stops.solid, word_of_means means]

theorem items?_succ (fuel : Nat) (unclosed : ∀ c, cs.head? = some c → c ≠ ']') :
    items? (fuel + 1) cs = (value? fuel cs).bind fun found => match found.2 with
      | ']' :: after => some ([found.1], after)
      | ',' :: rest => (items? fuel rest).map fun more => (found.1 :: more.1, more.2)
      | _ => none := by
  rw [items?]
  · simp only [Option.bind_eq_bind, Option.map_eq_bind]
    rfl
  · rintro after rfl
    exact unclosed ']' rfl rfl

theorem Complete.items_succ {vs : List Json} (complete : Complete fuel) (listed : Items cs vs)
    (rest : List Char) (enough : 2 * cs.length ≤ fuel + 1) :
    items? (fuel + 1) (cs ++ rest) = some (vs, rest) := by
  cases listed with
  | close => rfl
  | @last cs v filled item =>
    -- A closing bracket in front would end the list without the item.
    have unclosed : ∀ c, (cs ++ ']' :: rest).head? = some c → c ≠ ']' := by
      apply forall_head?_append
      · intro c head
        exact (item.head_ne c head).1
      · intro none
        exact absurd none filled
    have first := complete.value item (']' :: rest) (stops_cons (by decide) rest)
      (by rw [List.length_append] at enough; simp at enough; omega)
    rw [List.append_assoc, List.singleton_append, items?_succ fuel unclosed, first]
    rfl
  | @more cs others v vs item listed =>
    have unclosed : ∀ c, (cs ++ ',' :: (others ++ rest)).head? = some c → c ≠ ']' := by
      apply forall_head?_append
      · intro c head
        exact (item.head_ne c head).1
      · rintro - _ ⟨⟩
        decide
    rw [List.length_append, List.length_cons] at enough
    have first := complete.value item (',' :: (others ++ rest)) (stops_cons (by decide) _)
      (by omega)
    rw [List.append_assoc, List.cons_append, items?_succ fuel unclosed, first]
    change (items? fuel (others ++ rest)).map _ = _
    rw [complete.items listed rest (by omega)]
    rfl

theorem entries?_succ (fuel : Nat) (unclosed : ∀ c, cs.head? = some c → c ≠ '}') :
    entries? (fuel + 1) cs = (name? (skipBlanks cs)).bind fun named => match skipBlanks named.2 with
      | '=' :: rest => (value? fuel rest).bind fun found => match found.2 with
        | '}' :: after => some ([(named.1, found.1)], after)
        | ',' :: rest =>
          (entries? fuel rest).map fun more => ((named.1, found.1) :: more.1, more.2)
        | _ => none
      | _ => none := by
  rw [entries?]
  · simp only [Option.bind_eq_bind, Option.map_eq_bind]
    rfl
  · rintro after rfl
    exact unclosed '}' rfl rfl

theorem Complete.entries_succ {vs : List (String × Json)} (complete : Complete fuel)
    (listed : Entries cs vs) (rest : List Char) (enough : 2 * cs.length ≤ fuel + 1) :
    entries? (fuel + 1) (cs ++ rest) = some (vs, rest) := by
  have unclosed : ∀ {label name}, Label label name → ∀ behind c,
      (label ++ '=' :: behind).head? = some c → c ≠ '}' := by
    intro label name named behind
    apply forall_head?_append named.head_ne
    rintro - _ ⟨⟩
    decide
  cases listed with
  | close => rfl
  | @last label cs name v named item =>
    simp only [List.length_append, List.length_cons, List.length_nil] at enough
    obtain ⟨after, found, equals⟩ := exists_name?_of_label named (cs ++ '}' :: rest)
    have first := complete.value item ('}' :: rest) (stops_cons (by decide) rest) (by omega)
    rw [List.append_assoc, List.cons_append, List.append_assoc, List.singleton_append,
      entries?_succ fuel (unclosed named _), found, Option.bind_some, equals]
    change (value? fuel (cs ++ '}' :: rest)).bind _ = _
    rw [first]
    rfl
  | @more label cs others name v vs named item listed =>
    simp only [List.length_append, List.length_cons] at enough
    obtain ⟨after, found, equals⟩ := exists_name?_of_label named (cs ++ ',' :: (others ++ rest))
    have first := complete.value item (',' :: (others ++ rest)) (stops_cons (by decide) _)
      (by omega)
    rw [List.append_assoc, List.cons_append, List.append_assoc, List.cons_append,
      entries?_succ fuel (unclosed named _), found, Option.bind_some, equals]
    change (value? fuel (cs ++ ',' :: (others ++ rest))).bind _ = _
    rw [first]
    change (entries? fuel (others ++ rest)).map _ = _
    rw [complete.entries listed rest (by omega)]
    rfl

/-- Twice the length of a text is enough to read it. -/
theorem complete (fuel : Nat) : Complete fuel := by
  induction fuel with
  | zero =>
    -- The closing mark alone takes a step.
    refine ⟨fun _ _ _ enough => absurd enough (by omega), ?_, ?_⟩
    · intro cs vs listed rest enough
      cases listed <;> simp at enough
    · intro cs vs listed rest enough
      cases listed <;> simp at enough
  | succ fuel ih => exact ⟨fun means _ => ih.value_succ means, ih.items_succ, ih.entries_succ⟩

end Geoflow.Variable
