import Geoflow.Text.Blank

set_option autoImplicit false

namespace Geoflow.Text

theorem occurs_iff {word cs : List Char} : occurs word cs = true ↔ word <:+: cs := by
  induction cs with
  | nil => simp [occurs]
  | cons c rest ih =>
    rw [occurs, Bool.or_eq_true, List.isPrefixOf_iff_prefix, ih, List.infix_cons_iff]

theorem infix_append_cons_iff {word before after : List Char} {c : Char} (absent : c ∉ word) :
    word <:+: before ++ c :: after ↔ word <:+: before ∨ word <:+: after := by
  have starts : ∀ {part : List Char}, part <+: c :: after → part ⊆ word → part = [] := by
    intro part front inside
    rcases List.prefix_cons_iff.mp front with empty | ⟨more, rfl, -⟩
    · exact empty
    · exact absurd (inside List.mem_cons_self) absent
  constructor
  · intro occurs
    rcases List.infix_append_iff.mp occurs with left | right | ⟨first, second, rfl, back, front⟩
    · exact Or.inl left
    · rcases List.infix_cons_iff.mp right with front | later
      · rw [starts front (List.Subset.refl word)]
        exact Or.inl List.nil_infix
      · exact Or.inr later
    · rw [starts front (List.subset_append_right first second), List.append_nil]
      exact Or.inl back.isInfix
  · rintro (left | right)
    · exact left.trans (List.prefix_append before (c :: after)).isInfix
    · exact right.trans ((List.suffix_cons c after).trans
        (List.suffix_append before (c :: after))).isInfix

theorem splitAt_ne_nil (mark : Char) (cs : List Char) : splitAt mark cs ≠ [] := by
  cases cs with
  | nil => simp [splitAt]
  | cons c rest =>
    unfold splitAt
    split
    · simp
    · split <;> simp

theorem splitAt_append (mark : Char) (front back : List Char) :
    splitAt mark (front ++ mark :: back) = splitAt mark front ++ splitAt mark back := by
  induction front with
  | nil => simp only [List.nil_append, splitAt, ↓reduceIte, List.singleton_append]
  | cons c front ih =>
    rw [List.cons_append, splitAt, splitAt, ih]
    split
    · rfl
    · cases parts : splitAt mark front with
      | nil => exact absurd parts (splitAt_ne_nil mark front)
      | cons part parts => rfl

theorem splitAt_of_not_mem {mark : Char} {cs : List Char} (absent : mark ∉ cs) :
    splitAt mark cs = [cs] := by
  induction cs with
  | nil => rfl
  | cons c cs ih =>
    obtain ⟨other, absent⟩ := List.ne_and_not_mem_of_not_mem_cons absent
    rw [splitAt, if_neg (Ne.symm other), ih absent]

/-- Splitting loses nothing but the marks. -/
theorem mem_splitAt (mark : Char) {c : Char} {cs : List Char} (mem : c ∈ cs) :
    c = mark ∨ ∃ part ∈ splitAt mark cs, c ∈ part := by
  induction cs with
  | nil => cases mem
  | cons d cs ih =>
    rw [splitAt]
    by_cases isMark : d = mark
    · rw [if_pos isMark]
      rcases List.mem_cons.mp mem with first | later
      · exact Or.inl (first.trans isMark)
      · exact (ih later).imp_right fun ⟨part, listed, inside⟩ =>
          ⟨part, List.mem_cons_of_mem _ listed, inside⟩
    · rw [if_neg isMark]
      cases parts : splitAt mark cs with
      | nil => exact absurd parts (splitAt_ne_nil mark cs)
      | cons part more =>
        rw [parts] at ih
        rcases List.mem_cons.mp mem with first | later
        · exact Or.inr ⟨d :: part, List.mem_cons_self, first ▸ List.mem_cons_self⟩
        · rcases ih later with same | ⟨found, listed, inside⟩
          · exact Or.inl same
          · rcases List.mem_cons.mp listed with first | behind
            · exact Or.inr ⟨d :: part, List.mem_cons_self, List.mem_cons_of_mem _ (first ▸ inside)⟩
            · exact Or.inr ⟨found, List.mem_cons_of_mem _ behind, inside⟩

theorem sublist_of_cons_sublist {mark : Char} {cs before after : List Char}
    (inside : (mark :: cs).Sublist (before ++ mark :: after)) (first : mark ∉ before) :
    cs.Sublist after := by
  induction before with
  | nil => exact List.cons_sublist_cons.mp inside
  | cons c before ih =>
    obtain ⟨other, later⟩ := not_or.mp (mt List.mem_cons.mpr first)
    cases inside with
    | cons _ inside => exact ih inside later
    | cons_cons => exact absurd rfl other

/-- Of a part of a text, what stands before a mark is a part of what stands before the last. -/
theorem sublist_of_append_cons_sublist {mark : Char} {front behind before after : List Char}
    (inside : (front ++ mark :: behind).Sublist (before ++ mark :: after)) (last : mark ∉ after) :
    front.Sublist before := by
  have start : (front ++ [mark]).Sublist (before ++ mark :: after) := by
    apply List.Sublist.trans _ inside
    simp
  have reversed := start.reverse
  simp only [List.reverse_append, List.reverse_cons, List.reverse_nil, List.nil_append,
    List.append_assoc, List.singleton_append] at reversed
  have parts := sublist_of_cons_sublist reversed (mt List.mem_reverse.mp last)
  exact List.reverse_sublist.mp parts

theorem append_cons_inj {mark : Char} {front behind before after : List Char}
    (same : front ++ mark :: behind = before ++ mark :: after) (last : mark ∉ behind)
    (last' : mark ∉ after) : front = before ∧ behind = after := by
  have forth : (front ++ mark :: behind).Sublist (before ++ mark :: after) := by simp [same]
  have back : (before ++ mark :: after).Sublist (front ++ mark :: behind) := by simp [same]
  have inside := sublist_of_append_cons_sublist forth last'
  have around := sublist_of_append_cons_sublist back last
  have fronts := inside.eq_of_length_le around.length_le
  rw [fronts] at same
  exact ⟨fronts, (List.cons.inj (List.append_cancel_left same)).2⟩

end Geoflow.Text
