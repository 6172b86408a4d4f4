import Mathlib.Data.List.Basic

set_option autoImplicit false

namespace Geoflow

variable {α : Type} {n : Nat} {xs block rest : List α} {blocks : List (List α)}

def chunks (n : Nat) (xs : List α) : List (List α) :=
  if _ : 0 < n ∧ xs ≠ [] then xs.take n :: chunks n (xs.drop n) else []
termination_by xs.length
decreasing_by
  rename_i more
  have nonempty : 0 < xs.length := List.length_pos_iff.mpr more.2
  simp only [List.length_drop]
  omega

@[simp] theorem chunks_nil : chunks n ([] : List α) = [] := by
  rw [chunks, dif_neg (fun both => both.2 rfl)]

theorem chunks_step (positive : 0 < n) (nonempty : xs ≠ []) :
    chunks n xs = xs.take n :: chunks n (xs.drop n) := by
  rw [chunks, dif_pos ⟨positive, nonempty⟩]

theorem chunks_short (nonempty : xs ≠ []) (short : xs.length ≤ n) : chunks n xs = [xs] := by
  have positive : 0 < n := Nat.lt_of_lt_of_le (List.length_pos_iff.mpr nonempty) short
  rw [chunks_step positive nonempty, List.take_of_length_le short, List.drop_of_length_le short,
    chunks_nil]

theorem chunks_block (positive : 0 < n) (full : block.length = n) :
    chunks n (block ++ rest) = block :: chunks n rest := by
  have nonempty : block ++ rest ≠ [] := by
    intro empty
    rw [(List.append_eq_nil_iff.mp empty).1] at full
    exact absurd full (Nat.ne_of_lt positive)
  rw [chunks_step positive nonempty, ← full, List.take_left, List.drop_left]

theorem chunks_blocks (positive : 0 < n) (full : ∀ block ∈ blocks, block.length = n) :
    chunks n (blocks.flatten ++ rest) = blocks ++ chunks n rest := by
  induction blocks with
  | nil => rfl
  | cons block others ih =>
    obtain ⟨first, later⟩ := List.forall_mem_cons.mp full
    rw [List.flatten_cons, List.append_assoc, chunks_block positive first, ih later,
      List.cons_append]

theorem flatten_chunks (positive : 0 < n) : (chunks n xs).flatten = xs := by
  induction xs using chunks.induct (n := n) with
  | case1 xs more ih =>
    rw [chunks_step positive more.2, List.flatten_cons, ih, List.take_append_drop]
  | case2 xs stop =>
    have empty : xs = [] := by
      by_contra nonempty
      exact stop ⟨positive, nonempty⟩
    rw [empty, chunks_nil, List.flatten_nil]

theorem length_of_mem_chunks (mem : block ∈ chunks n xs) : 0 < block.length ∧ block.length ≤ n := by
  induction xs using chunks.induct (n := n) with
  | case1 xs more ih =>
    have nonempty : 0 < xs.length := List.length_pos_iff.mpr more.2
    rw [chunks_step more.1 more.2] at mem
    rcases List.mem_cons.mp mem with rfl | later
    · rw [List.length_take]
      omega
    · exact ih later
  | case2 xs stop =>
    rw [chunks, dif_neg stop] at mem
    cases mem

/-- Only the last chunk may be short. -/
theorem length_of_chunks_eq {before after : List (List α)}
    (split : chunks n xs = before ++ block :: after) (inner : after ≠ []) : block.length = n := by
  induction xs using chunks.induct (n := n) generalizing before with
  | case1 xs more ih =>
    rw [chunks_step more.1 more.2] at split
    cases before with
    | nil =>
      obtain ⟨rfl, later⟩ := List.cons.inj split
      rw [List.length_take, Nat.min_eq_left]
      by_contra short
      rw [List.drop_of_length_le (by omega), chunks_nil] at later
      exact inner later.symm
    | cons first others => exact ih (List.cons.inj split).2
  | case2 xs stop =>
    rw [chunks, dif_neg stop] at split
    simp at split

theorem full_of_chunks_snoc (split : chunks n xs = blocks ++ [rest]) :
    ∀ block ∈ blocks, block.length = n := by
  intro block mem
  obtain ⟨before, after, rfl⟩ := List.append_of_mem mem
  have inside : chunks n xs = before ++ block :: (after ++ [rest]) := by simp [split]
  exact length_of_chunks_eq inside (by simp)

theorem length_flatten_of_full (full : ∀ block ∈ blocks, block.length = n) :
    blocks.flatten.length = blocks.length * n := by
  induction blocks with
  | nil => simp
  | cons block others ih =>
    obtain ⟨first, later⟩ := List.forall_mem_cons.mp full
    rw [List.flatten_cons, List.length_append, first, ih later, List.length_cons, Nat.succ_mul,
      Nat.add_comm]

/-- The chunks of full length are those before the rest. -/
theorem filter_chunks (full : ∀ block ∈ blocks, block.length = n) (short : rest.length < n) :
    (chunks n (blocks.flatten ++ rest)).filter (fun block => block.length == n) = blocks := by
  have positive : 0 < n := Nat.zero_lt_of_lt short
  have kept : blocks.filter (fun block => block.length == n) = blocks :=
    List.filter_eq_self.mpr fun block mem => beq_iff_eq.mpr (full block mem)
  rw [chunks_blocks positive full, List.filter_append, kept]
  by_cases empty : rest = []
  · rw [empty, chunks_nil, List.filter_nil, List.append_nil]
  · have dropped : [rest].filter (fun block => block.length == n) = [] := by
      simp [Nat.ne_of_lt short]
    rw [chunks_short empty (Nat.le_of_lt short), dropped, List.append_nil]

end Geoflow
