import Geoflow.Store.Table
import Mathlib.Algebra.GroupWithZero.Nat
import Mathlib.Data.List.Nodup

set_option autoImplicit false

namespace Geoflow.Table

variable {ρ : Type} {t : Table ρ} {row : ρ} {key : Nat} {id : Int64}

theorem greatestId_lt : greatestId < 2 ^ 63 := by decide

/-- Rows in the order of their numbers, with the numbers that were given out. -/
structure Numbered (t : Table ρ) : Prop where
  ascending : t.rows.Pairwise fun a b => a.1 < b.1
  given : ∀ row ∈ t.rows, row.1 ≤ t.issued
  room : t.issued ≤ greatestId

theorem isId_iff (inRange : key ≤ greatestId) : isId key id = true ↔ Int64.ofNat key = id := by
  have kept : (Int64.ofNat key).toInt = (key : Int) :=
    Int64.toInt_ofNat_of_lt (Nat.lt_of_le_of_lt inRange greatestId_lt)
  rw [isId, beq_iff_eq, ← Int64.toInt_inj, kept]

/-- A refused row leaves the table as it was. -/
theorem insert_eq (t : Table ρ) (row : ρ) :
    (t.insert row).1 = t ∨ t.issued < greatestId ∧ (t.insert row).1 =
      { t with rows := t.rows ++ [(t.issued + 1, row)], issued := t.issued + 1 } := by
  rw [insert]
  split
  · exact Or.inl rfl
  · split
    · exact Or.inr ⟨‹_›, rfl⟩
    · exact Or.inl rfl

namespace Numbered

theorem empty : Numbered ({} : Table ρ) where
  ascending := List.Pairwise.nil
  given := fun _ none => absurd none List.not_mem_nil
  room := Nat.zero_le _

variable (numbered : t.Numbered)
include numbered

theorem insert (row : ρ) : (t.insert row).1.Numbered := by
  obtain same | ⟨below, added⟩ := insert_eq t row
  · rwa [same]
  rw [added]
  refine ⟨?_, ?_, below⟩
  · refine List.pairwise_append.mpr ⟨numbered.ascending, List.pairwise_singleton _ _, ?_⟩
    intro old mem fresh isFresh
    rw [List.mem_singleton.mp isFresh]
    exact Nat.lt_succ_of_le (numbered.given old mem)
  · refine List.forall_mem_append.mpr ⟨?_, ?_⟩
    · exact fun old mem => Nat.le_succ_of_le (numbered.given old mem)
    · exact fun fresh isFresh => Nat.le_of_eq (congrArg Prod.fst (List.mem_singleton.mp isFresh))

theorem unique {a b : Nat × ρ} (inA : a ∈ t.rows) (inB : b ∈ t.rows) (same : a.1 = b.1) :
    a = b := by
  have apart : (t.rows.map Prod.fst).Nodup :=
    List.pairwise_map.mpr (numbered.ascending.imp Nat.ne_of_lt)
  exact List.inj_on_of_nodup_map apart inA inB same

theorem find?_eq_some_iff {row : Nat × ρ} :
    t.find? id = some row ↔ row ∈ t.rows ∧ Int64.ofNat row.1 = id := by
  have asked : ∀ other ∈ t.rows, (isId other.1 id = true ↔ Int64.ofNat other.1 = id) :=
    fun other mem => isId_iff (Nat.le_trans (numbered.given other mem) numbered.room)
  have hit : ∀ {other}, t.find? id = some other → isId other.1 id = true := by
    intro other found
    have passed := List.find?_some found
    exact passed
  constructor
  · intro found
    have mem : row ∈ t.rows := List.mem_of_find?_eq_some found
    exact ⟨mem, (asked row mem).mp (hit found)⟩
  · rintro ⟨mem, isRow⟩
    have passes := (asked row mem).mpr isRow
    have some : (t.find? id).isSome = true := List.find?_isSome.mpr ⟨row, mem, passes⟩
    obtain ⟨other, found⟩ := Option.isSome_iff_exists.mp some
    have otherPasses := hit found
    rw [isId, beq_iff_eq] at passes otherPasses
    have same : other.1 = row.1 := Int.ofNat_inj.mp (otherPasses.trans passes.symm)
    rw [found, numbered.unique (List.mem_of_find?_eq_some found) mem same]

end Numbered

end Geoflow.Table
