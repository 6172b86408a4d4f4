import Geoflow.Extract.Stream
import Mathlib.Algebra.Group.Nat.Defs
import Mathlib.Tactic.ByContra

set_option autoImplicit false

namespace Geoflow

/-- A result with a property exactly where the buffer that it takes can be had, and a panic anywhere
else. -/
structure Buffered {α : Type} (fits : Prop) (holds : α → Prop) (result : Except Panic α) :
    Prop where
  holds_iff : (∃ run, result = .ok run ∧ holds run) ↔ fits
  panics : ¬ fits → result = .error .capacityOverflow

namespace Buffered

variable {α β : Type} {fits : Prop} {holds : α → Prop} {holds' : β → Prop}
  {result : Except Panic α}

theorem of_cases (has : fits → ∃ run, result = .ok run ∧ holds run)
    (panics : ¬ fits → result = .error .capacityOverflow) : Buffered fits holds result where
  holds_iff := by
    refine ⟨?_, has⟩
    rintro ⟨run, given, -⟩
    by_contra oversized
    rw [panics oversized] at given
    cases given
  panics := panics

variable (buffered : Buffered fits holds result)
include buffered

/-- What holds of a result carries over to what is made of it. -/
theorem map (f : α → β) (carries : ∀ run, holds run → holds' (f run)) :
    Buffered fits holds' (result.map f) := by
  refine of_cases (fun small => ?_) fun oversized => ?_
  · obtain ⟨run, given, held⟩ := buffered.holds_iff.mpr small
    exact ⟨f run, by rw [given]; rfl, carries run held⟩
  · rw [buffered.panics oversized]
    rfl

theorem imp {holds' : α → Prop} (carries : ∀ run, holds run → holds' run) :
    Buffered fits holds' result := by
  refine of_cases (fun small => ?_) buffered.panics
  obtain ⟨run, given, held⟩ := buffered.holds_iff.mpr small
  exact ⟨run, given, carries run held⟩

theorem congr {fits' : Prop} (same : fits ↔ fits') : Buffered fits' holds result where
  holds_iff := buffered.holds_iff.trans same
  panics oversized := buffered.panics fun small => oversized (same.mp small)

theorem holds_of_ok {run : α} (given : result = .ok run) : fits ∧ holds run := by
  have small : fits := by
    by_contra oversized
    rw [buffered.panics oversized] at given
    cases given
  obtain ⟨own, same, held⟩ := buffered.holds_iff.mpr small
  rw [given] at same
  cases same
  exact ⟨small, held⟩

end Buffered

section

variable {σ : Type} {size : Nat}

theorem octetLimit_eq : Nat.pow 2 63 = 2 ^ 57 * recordOctets := rfl

/-- A record has `2 ^ 6` octets, and a buffer has fewer than `2 ^ 63`. -/
theorem Capacity.ofSize_of_lt (small : size < 2 ^ 57) :
    ∃ capacity, ofSize size = .ok capacity ∧ capacity.records = max size 1 := by
  have fits : max size 1 * recordOctets < Nat.pow 2 63 := by
    rw [octetLimit_eq, recordOctets]
    omega
  exact ⟨⟨max size 1, by omega, fits⟩, dif_pos fits, rfl⟩

theorem Capacity.ofSize_of_le (large : 2 ^ 57 ≤ size) :
    ofSize size = .error .capacityOverflow := by
  have oversized : ¬ max size 1 * recordOctets < Nat.pow 2 63 := by
    rw [octetLimit_eq, recordOctets]
    omega
  exact dif_neg oversized

theorem streamBatches_of_lt (c : Consumer σ) (state : σ) (items : List StreamItem)
    (small : size < 2 ^ 57) : ∃ capacity : Capacity, capacity.records = max size 1 ∧
      streamBatches c size state items = .ok (streamFrom c capacity items [] { state }) := by
  obtain ⟨capacity, made, records⟩ := Capacity.ofSize_of_lt small
  refine ⟨capacity, records, ?_⟩
  rw [streamBatches, made]
  rfl

theorem streamBatches_of_le (c : Consumer σ) (state : σ) (items : List StreamItem)
    (large : 2 ^ 57 ≤ size) : streamBatches c size state items = .error .capacityOverflow := by
  rw [streamBatches, Capacity.ofSize_of_le large]
  rfl

end

end Geoflow
