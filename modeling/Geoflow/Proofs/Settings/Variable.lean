import Geoflow.Proofs.Settings.Complete
import Geoflow.Proofs.Text.Fields

set_option autoImplicit false

namespace Geoflow.Variable

open Toml (isBareChar)

variable {cs rest : List Char} {v : Json} {fuel : Nat}

/-- What is read within a number of steps has the form of its value. -/
structure Sound (fuel : Nat) : Prop where
  value : ∀ {cs rest : List Char} {v : Json}, value? fuel cs = some (v, rest) →
    ∃ front, cs = front ++ rest ∧ Means front v
  items : ∀ {cs rest : List Char} {vs : List Json}, items? fuel cs = some (vs, rest) →
    ∃ front, cs = front ++ rest ∧ Items front vs
  entries : ∀ {cs rest : List Char} {vs : List (String × Json)},
    entries? fuel cs = some (vs, rest) → ∃ front, cs = front ++ rest ∧ Entries front vs

theorem isWord_takeWhile (noTrue : afterWord? "true".toList cs = none)
    (noFalse : afterWord? "false".toList cs = none)
    (solid : ∀ c, cs.head? = some c → isBlank c = false ∧ c ≠ '"' ∧ c ≠ '\'') :
    IsWord (cs.takeWhile (!isMark ·)) where
  noMark c mem := by simpa using List.mem_takeWhile_imp mem
  solid c head := by
    cases cs with
    | nil => cases head
    | cons d cs =>
      rw [List.takeWhile_cons] at head
      split at head
      · exact solid c head
      · cases head
  noTrue starts := afterWord?_eq_none_iff.mp noTrue (starts.trans (List.takeWhile_prefix _))
  noFalse starts := afterWord?_eq_none_iff.mp noFalse (starts.trans (List.takeWhile_prefix _))

theorem skipBlanks_dropWhile (cs : List Char) :
    skipBlanks (cs.dropWhile (!isMark ·)) = cs.dropWhile (!isMark ·) := by
  apply skipBlanks_of_solid
  intro c head
  have mark := List.head?_dropWhile_not (!isMark ·) cs
  rw [head] at mark
  exact not_isBlank_of_isMark (by simpa using mark)

/-- Without the blanks around it, a value is a form or a word up to the next mark. -/
theorem Sound.core (sound : Sound fuel) (solid : ∀ c, cs.head? = some c → isBlank c = false)
    (read : core? fuel cs = some (v, rest)) :
    ∃ front, cs = front ++ rest ∧
      (Form front v ∨ IsWord front ∧ word front = v ∧ skipBlanks rest = rest) := by
  unfold core? at read
  split at read
  · rename_i tail starts
    cases read
    exact ⟨_, afterWord?_eq_some_iff.mp starts, .inl .yes⟩
  · rename_i tail _ starts
    cases read
    exact ⟨_, afterWord?_eq_some_iff.mp starts, .inl .no⟩
  · rename_i tail _ _
    obtain ⟨⟨entries, after⟩, found, same⟩ := Option.map_eq_some_iff.mp read
    obtain ⟨body, rfl, named⟩ := sound.entries found
    cases same
    exact ⟨_, rfl, .inl (.settings named)⟩
  · rename_i tail _ _
    obtain ⟨⟨items, after⟩, found, same⟩ := Option.map_eq_some_iff.mp read
    obtain ⟨body, rfl, listed⟩ := sound.items found
    cases same
    exact ⟨_, rfl, .inl (.list listed)⟩
  · rename_i tail _ _
    obtain ⟨⟨text, after⟩, found, same⟩ := Option.map_eq_some_iff.mp read
    obtain ⟨body, rfl, quoted⟩ := Toml.exists_quoted_of_basic? found
    cases same
    exact ⟨_, rfl, .inl (.quoted quoted)⟩
  · rename_i c after _ _
    cases read
    exact ⟨['\'', c, '\''], rfl, .inl (.single c)⟩
  · cases read
  · rename_i noBrace noBracket noQuote _ noTick noTrue noFalse
    cases read
    refine ⟨_, List.takeWhile_append_dropWhile.symm,
      .inr ⟨isWord_takeWhile noTrue noFalse ?_, rfl, ?_⟩⟩
    · intro c head
      obtain ⟨tail, rfl⟩ := List.head?_eq_some_iff.mp head
      refine ⟨solid c rfl, ?_, ?_⟩
      · rintro rfl
        exact noQuote tail rfl
      · rintro rfl
        exact noTick tail rfl
    · exact skipBlanks_dropWhile _

theorem Sound.value_succ (sound : Sound fuel) (read : value? (fuel + 1) cs = some (v, rest)) :
    ∃ front, cs = front ++ rest ∧ Means front v := by
  rw [value?_succ] at read
  obtain ⟨⟨v, behind⟩, found, same⟩ := Option.map_eq_some_iff.mp read
  cases same
  have solid : ∀ c, (skipBlanks cs).head? = some c → isBlank c = false := by
    intro c head
    have solid := List.head?_dropWhile_not isBlank cs
    rw [show cs.dropWhile isBlank = skipBlanks cs from rfl, head] at solid
    simpa using solid
  obtain ⟨before, blanks, split⟩ := exists_blanks cs
  obtain ⟨core, same, form | ⟨isWord, rfl, stop⟩⟩ := sound.core solid found
  · obtain ⟨after, blanksAfter, splitBehind⟩ := exists_blanks behind
    refine ⟨before ++ (core ++ after), ?_, .form blanks form blanksAfter⟩
    rw [List.append_assoc, List.append_assoc, ← splitBehind, ← same, ← split]
  · refine ⟨before ++ core, ?_, .word blanks isWord (word_means core)⟩
    rw [stop, List.append_assoc, ← same, ← split]

theorem Sound.items_succ {vs : List Json} (sound : Sound fuel)
    (read : items? (fuel + 1) cs = some (vs, rest)) :
    ∃ front, cs = front ++ rest ∧ Items front vs := by
  by_cases closed : ∃ tail, cs = ']' :: tail
  · obtain ⟨tail, rfl⟩ := closed
    cases read
    exact ⟨[']'], rfl, .close⟩
  · have unclosed : ∀ c, cs.head? = some c → c ≠ ']' := by
      rintro c head rfl
      exact closed (List.head?_eq_some_iff.mp head)
    rw [items?_succ fuel unclosed] at read
    obtain ⟨⟨v, behind⟩, found, ends⟩ := Option.bind_eq_some_iff.mp read
    obtain ⟨front, rfl, means⟩ := sound.value found
    dsimp only at ends
    split at ends
    · cases ends
      refine ⟨front ++ [']'], by simp, .last ?_ means⟩
      rintro rfl
      exact closed ⟨_, rfl⟩
    · obtain ⟨⟨more, after⟩, foundMore, same⟩ := Option.map_eq_some_iff.mp ends
      obtain ⟨others, rfl, listed⟩ := sound.items foundMore
      cases same
      exact ⟨front ++ ',' :: others, by simp, .more means listed⟩
    · cases ends

theorem exists_label_of_name? {name : String} {after : List Char}
    (read : name? (skipBlanks cs) = some (name, after)) :
    ∃ front, cs = front ++ skipBlanks after ∧ Label front name := by
  obtain ⟨before, blanks, split⟩ := exists_blanks cs
  obtain ⟨behind, blanksAfter, splitAfter⟩ := exists_blanks after
  generalize skipBlanks cs = core at *
  unfold name? at read
  split at read
  · rename_i tail
    obtain ⟨⟨text, rest⟩, found, same⟩ := Option.map_eq_some_iff.mp read
    obtain ⟨body, rfl, quoted⟩ := Toml.exists_quoted_of_basic? found
    cases same
    refine ⟨_, ?_, .quoted blanks quoted blanksAfter⟩
    rw [List.append_assoc, List.cons_append, List.append_assoc, ← splitAfter]
    exact split
  · dsimp only at read
    split at read
    · cases read
    · rename_i filled
      cases read
      refine ⟨_, ?_, .bare blanks (by simpa using filled) (fun c mem => List.mem_takeWhile_imp mem)
        blanksAfter⟩
      rw [List.append_assoc, List.append_assoc, ← splitAfter, List.takeWhile_append_dropWhile,
        ← split]

theorem Sound.entries_succ {vs : List (String × Json)} (sound : Sound fuel)
    (read : entries? (fuel + 1) cs = some (vs, rest)) :
    ∃ front, cs = front ++ rest ∧ Entries front vs := by
  by_cases closed : ∃ tail, cs = '}' :: tail
  · obtain ⟨tail, rfl⟩ := closed
    cases read
    exact ⟨['}'], rfl, .close⟩
  · have unclosed : ∀ c, cs.head? = some c → c ≠ '}' := by
      rintro c head rfl
      exact closed (List.head?_eq_some_iff.mp head)
    rw [entries?_succ fuel unclosed] at read
    obtain ⟨⟨name, behind⟩, foundName, equation⟩ := Option.bind_eq_some_iff.mp read
    obtain ⟨label, rfl, named⟩ := exists_label_of_name? foundName
    dsimp only at equation
    split at equation
    · rename_i tail equals
      obtain ⟨⟨v, behind⟩, found, ends⟩ := Option.bind_eq_some_iff.mp equation
      obtain ⟨front, rfl, means⟩ := sound.value found
      rw [equals]
      dsimp only at ends
      split at ends
      · cases ends
        exact ⟨label ++ '=' :: (front ++ ['}']), by simp, .last named means⟩
      · obtain ⟨⟨more, after⟩, foundMore, same⟩ := Option.map_eq_some_iff.mp ends
        obtain ⟨others, rfl, listed⟩ := sound.entries foundMore
        cases same
        exact ⟨label ++ '=' :: (front ++ ',' :: others), by simp, .more named means listed⟩
      · cases ends
    · cases equation

theorem sound (fuel : Nat) : Sound fuel := by
  induction fuel with
  | zero => exact ⟨nofun, nofun, nofun⟩
  | succ fuel ih => exact ⟨ih.value_succ, ih.items_succ, ih.entries_succ⟩

/-- The text has the form of a value, and is not the text of that value. -/
def IsRecast (text : String) : Prop := ∃ v, Means text.toList v ∧ v ≠ .str text

theorem read_of_means {text : String} (means : Means text.toList v) : read text = v := by
  have whole := (complete (2 * text.toList.length + 2)).value means [] stops_nil (by omega)
  rw [List.append_nil] at whole
  rw [read, whole]

theorem read_of_formless {text : String} (formless : ∀ v, ¬ Means text.toList v) :
    read text = .str text := by
  unfold read
  dsimp only
  split
  · rename_i v whole
    obtain ⟨front, same, means⟩ := (sound _).value whole
    rw [List.append_nil] at same
    rw [← same] at means
    exact absurd means (formless v)
  · rfl

/-- A text has at most one value. -/
theorem Means.unique {v' : Json} (means : Means cs v) (means' : Means cs v') : v = v' := by
  have reads : ∀ {w}, Means cs w → read (String.ofList cs) = w := fun means =>
    read_of_means (by rwa [String.toList_ofList])
  rw [← reads means, reads means']

/-- Exactly the texts without another form stand for themselves. -/
theorem read_eq_str_iff (text : String) : read text = .str text ↔ ¬ IsRecast text := by
  constructor
  · rintro same ⟨v, means, other⟩
    rw [read_of_means means] at same
    exact other same
  · intro plain
    by_cases formed : ∃ v, Means text.toList v
    · obtain ⟨v, means⟩ := formed
      rw [read_of_means means]
      by_contra other
      exact plain ⟨v, means, other⟩
    · exact read_of_formless fun v means => formed ⟨v, means⟩

theorem means_of_isRecast {text : String} (recast : IsRecast text) :
    Means text.toList (read text) := by
  obtain ⟨v, means, -⟩ := recast
  rwa [read_of_means means]

open Utf8 (octets octets_append octets_cons length_le_octets)

theorem octets_lt_of_around {before core after : List Char} (whole : cs = before ++ core ++ after)
    (other : core ≠ cs) : octets core < octets cs := by
  have front := length_le_octets before
  have back := length_le_octets after
  have around : 0 < before.length + after.length := by
    apply Nat.pos_of_ne_zero
    intro none
    obtain ⟨nothing, nothing'⟩ := Nat.add_eq_zero_iff.mp none
    rw [List.length_eq_zero_iff] at nothing nothing'
    exact other (by rw [whole, nothing, nothing', List.nil_append, List.append_nil])
  rw [whole, octets_append, octets_append]
  omega

theorem WordMeans.toList_eq {text : String} (means : WordMeans cs (.str text)) :
    text.toList = cs := by
  cases means
  exact String.toList_ofList

theorem Form.octets_lt {text : String} (form : Form cs (.str text)) :
    octets text.toList < octets cs := by
  cases form with
  | @quoted body text quoted =>
    have shorter := quoted.octets_lt
    rw [String.toList_ofList, octets_cons]
    omega
  | single c =>
    simp only [String.toList_singleton, octets_cons]
    have one : 0 < (String.utf8EncodeChar '\'').length := by decide
    omega

/-- A text that stands for another one stands for a shorter one. -/
theorem Means.octets_lt {text : String} (means : Means cs (.str text)) (other : text.toList ≠ cs) :
    octets text.toList < octets cs := by
  cases means with
  | @form before core after _ blanks form behind =>
    have shorter := form.octets_lt
    rw [octets_append, octets_append]
    omega
  | @word before w _ blanks isWord means =>
    obtain ⟨front, back, whole, -⟩ := Text.exists_around w
    rw [means.toList_eq] at other ⊢
    have around : before ++ w = (before ++ front) ++ Text.trimmed w ++ back := by
      rw [List.append_assoc, List.append_assoc, ← List.append_assoc front, ← whole]
    exact octets_lt_of_around around other

end Geoflow.Variable
