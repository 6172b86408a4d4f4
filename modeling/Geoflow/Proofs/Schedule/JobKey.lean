import Geoflow.Proofs.Numeral
import Geoflow.Schedule.JobKey

set_option autoImplicit false

namespace Geoflow.JobKey

def Precedes (a b : JobKey) : Prop := a.le b = true ∧ a ≠ b

theorem le_total (a b : JobKey) : a.le b = true ∨ b.le a = true := by
  cases a <;> cases b <;> simp only [le, decide_eq_true_eq, Bool.false_eq_true, or_true, true_or]
  all_goals omega

theorem le_antisymm {a b : JobKey} (forth : a.le b = true) (back : b.le a = true) : a = b := by
  cases a <;> cases b <;> simp only [le, decide_eq_true_eq, Bool.false_eq_true] at forth back
  all_goals rw [Int64.toInt_inj.mp (Int.le_antisymm forth back)]

theorem le_trans {a b c : JobKey} (first : a.le b = true) (second : b.le c = true) :
    a.le c = true := by
  cases a <;> cases b <;> cases c <;>
    simp only [le, decide_eq_true_eq, Bool.false_eq_true] at first second ⊢
  all_goals omega

theorem Precedes.trans {a b c : JobKey} (first : a.Precedes b) (second : b.Precedes c) :
    a.Precedes c := by
  refine ⟨le_trans first.1 second.1, ?_⟩
  rintro rfl
  exact first.2 (le_antisymm first.1 second.1)

theorem precedes_of_not_le {a b : JobKey} (later : a.le b = false) : b.Precedes a := by
  have below : b.le a = true := by simpa [later] using le_total a b
  refine ⟨below, ?_⟩
  rintro rfl
  simp [later] at below

/-- The stems of the two kinds differ in their first letter. -/
theorem toText_injective : Function.Injective toText := by
  intro a b same
  have chars : a.chars = b.chars := String.ofList_injective same
  cases a with
  | pipeline m =>
    cases b with
    | pipeline n =>
      have ids := Numeral.ofInt_injective (List.append_cancel_left chars)
      rw [Int64.toInt_inj.mp ids]
    | sync n => exact absurd (List.cons.inj chars).1 (by decide)
  | sync m =>
    cases b with
    | pipeline n => exact absurd (List.cons.inj chars).1 (by decide)
    | sync n =>
      have ids := Numeral.ofInt_injective (List.append_cancel_left chars)
      rw [Int64.toInt_inj.mp ids]

end Geoflow.JobKey
