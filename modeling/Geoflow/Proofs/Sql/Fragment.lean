import Mathlib.Data.List.Find
import Mathlib.Data.List.Infix
import Geoflow.Proofs.Sql.Literal
import Geoflow.Proofs.Text.Capital
import Geoflow.Proofs.Text.Occurrence

set_option autoImplicit false

namespace Geoflow.Sql

variable {cs before after : List Char} {c : Char}

def IsFree (cs : List Char) : Prop :=
  ∀ sequence ∈ forbiddenSequences, ¬ sequence.toList <:+: cs

def HasNoKeyword (cs : List Char) : Prop :=
  ∀ entry ∈ forbiddenKeywords, ¬ entry.toList <:+: Text.capitals cs

theorem expressionFault?_eq_none_iff :
    expressionFault? cs = none ↔ IsFree cs ∧ HasNoKeyword cs := by
  have free : forbiddenSequences.find? (fun mark => Text.occurs mark.toList cs) = none ↔
      IsFree cs := by
    simp only [List.find?_eq_none, Text.occurs_iff, IsFree]
  have keyword : forbiddenKeywords.find?
      (fun entry => Text.occurs entry.toList (Text.capitals cs)) = none ↔ HasNoKeyword cs := by
    simp only [List.find?_eq_none, Text.occurs_iff, HasNoKeyword]
  rw [← free, ← keyword]
  unfold expressionFault?
  split
  · rename_i found
    simp [found]
  · rename_i found
    split
    · rename_i later
      simp [later]
    · rename_i later
      simp [found, later]

theorem checkExpression_ofList_eq_error_iff {fault : FragmentFault} :
    checkExpression (String.ofList cs) = .error fault ↔ expressionFault? cs = some fault := by
  unfold checkExpression
  rw [String.toList_ofList]
  split <;> simp_all

/-- A character of no forbidden sequence. -/
def isPlain (c : Char) : Bool :=
  forbiddenSequences.all fun sequence => !sequence.toList.contains c

theorem not_mem_of_isPlain (plain : isPlain c = true) {sequence : String}
    (mem : sequence ∈ forbiddenSequences) : c ∉ sequence.toList := by
  simpa using List.all_eq_true.mp plain sequence mem

theorem isFree_append_cons_iff (plain : isPlain c = true) :
    IsFree (before ++ c :: after) ↔ IsFree before ∧ IsFree after := by
  constructor
  · intro free
    constructor
    · exact fun sequence mem occurs => free sequence mem
        ((Text.infix_append_cons_iff (not_mem_of_isPlain plain mem)).mpr (Or.inl occurs))
    · exact fun sequence mem occurs => free sequence mem
        ((Text.infix_append_cons_iff (not_mem_of_isPlain plain mem)).mpr (Or.inr occurs))
  · rintro ⟨left, right⟩ sequence mem occurs
    rcases (Text.infix_append_cons_iff (not_mem_of_isPlain plain mem)).mp occurs with
      inLeft | inRight
    · exact left sequence mem inLeft
    · exact right sequence mem inRight

theorem isFree_nil : IsFree [] := by
  intro sequence mem occurs
  rw [List.infix_nil] at occurs
  revert sequence
  decide

/-- A part of an accepted text is accepted. -/
theorem expressionFault?_eq_none_of_part {part : List Char} (inside : part <:+: cs)
    (accepted : expressionFault? cs = none) : expressionFault? part = none := by
  obtain ⟨free, keyword⟩ := expressionFault?_eq_none_iff.mp accepted
  refine expressionFault?_eq_none_iff.mpr ⟨?_, ?_⟩
  · exact fun sequence mem occurs => free sequence mem (occurs.trans inside)
  · exact fun entry mem occurs => keyword entry mem (occurs.trans (inside.flatMap Text.capital))

section Quotes

theorem prefix_doubleQuotes_iff {word : List Char} (noQuote : '\'' ∉ word) :
    word <+: doubleQuotes cs ↔ word <+: cs := by
  induction cs generalizing word with
  | nil => rw [doubleQuotes_nil]
  | cons c rest ih =>
    cases word with
    | nil => simp
    | cons w more =>
      have noQuoteMore : '\'' ∉ more := fun mem => noQuote (List.mem_cons_of_mem _ mem)
      by_cases quote : c = '\''
      · have other : w ≠ '\'' := fun same => noQuote (same ▸ List.mem_cons_self)
        simp only [quote, doubleQuotes_quote, List.cons_prefix_cons, other, false_and]
      · rw [doubleQuotes_other quote, List.cons_prefix_cons, List.cons_prefix_cons, ih noQuoteMore]

theorem infix_doubleQuotes_iff {word : List Char} (noQuote : '\'' ∉ word) :
    word <:+: doubleQuotes cs ↔ word <:+: cs := by
  induction cs with
  | nil => rw [doubleQuotes_nil]
  | cons c rest ih =>
    have skip : ∀ text, word <:+: [] ++ '\'' :: text ↔ word <:+: [] ∨ word <:+: text :=
      fun text => Text.infix_append_cons_iff noQuote
    simp only [List.nil_append] at skip
    by_cases quote : c = '\''
    · rw [quote, doubleQuotes_quote, skip, skip, skip, ih, or_self_left]
    · rw [List.infix_cons_iff, doubleQuotes_other quote, List.infix_cons_iff, ih,
        ← doubleQuotes_other quote, prefix_doubleQuotes_iff noQuote]

theorem doubleQuotes_append (before after : List Char) :
    doubleQuotes (before ++ after) = doubleQuotes before ++ doubleQuotes after :=
  List.flatMap_append

theorem doubleQuotes_of_not_mem (noQuote : '\'' ∉ cs) : doubleQuotes cs = cs := by
  induction cs with
  | nil => rfl
  | cons c rest ih =>
    have other : c ≠ '\'' := fun same => noQuote (same ▸ List.mem_cons_self)
    rw [doubleQuotes_other other, ih fun mem => noQuote (List.mem_cons_of_mem _ mem)]

theorem capitals_doubleQuotes (cs : List Char) :
    Text.capitals (doubleQuotes cs) = doubleQuotes (Text.capitals cs) := by
  induction cs with
  | nil => rfl
  | cons c rest ih =>
    by_cases quote : c = '\''
    · rw [quote, doubleQuotes_quote, Text.capitals_cons, Text.capitals_cons, ih]
      rfl
    · have noQuote : '\'' ∉ Text.capital c := fun mem =>
        quote (Text.eq_of_mem_capital mem (by decide) (by decide))
      rw [doubleQuotes_other quote, Text.capitals_cons, Text.capitals_cons, ih,
        doubleQuotes_append, doubleQuotes_of_not_mem noQuote]

/-- The check of a value with its quotes doubled finds what the check of the value itself finds. -/
theorem expressionFault?_doubleQuotes (cs : List Char) :
    expressionFault? (doubleQuotes cs) = expressionFault? cs := by
  have occurs : ∀ word text : List Char, '\'' ∉ word →
      Text.occurs word (doubleQuotes text) = Text.occurs word text := by
    intro word text noQuote
    rw [Bool.eq_iff_iff, Text.occurs_iff, Text.occurs_iff, infix_doubleQuotes_iff noQuote]
  have sequences :
      forbiddenSequences.find? (fun mark => Text.occurs mark.toList (doubleQuotes cs)) =
        forbiddenSequences.find? (fun mark => Text.occurs mark.toList cs) :=
    List.find?_congr fun mark mem => occurs _ _ (by revert mark; decide)
  have keywords : forbiddenKeywords.find?
      (fun entry => Text.occurs entry.toList (Text.capitals (doubleQuotes cs))) =
      forbiddenKeywords.find? (fun entry => Text.occurs entry.toList (Text.capitals cs)) :=
    List.find?_congr fun entry mem => by
      rw [capitals_doubleQuotes]
      exact occurs _ _ (by revert entry; decide)
  unfold expressionFault?
  rw [sequences, keywords]

end Quotes

end Geoflow.Sql
