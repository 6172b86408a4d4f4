import Geoflow.Validation.Throttle
import Mathlib.Order.Bounds.Defs

set_option autoImplicit false

namespace Geoflow.Throttle

/-- The times before which caller `k` may not have its slot: for each caller up to it, so many slots
behind the arrival of that one. -/
def bookings (gap : Nat) (arrivals : List Nat) (k : Nat) : Set Nat :=
  {t | ∃ i arrival, i ≤ k ∧ arrivals[i]? = some arrival ∧ t = arrival + (k - i) * gap}

/-- Callers that came at these times passed a throttle that was there from `created` on. -/
structure Paced (gap created : Nat) (arrivals : List Nat) (passages : List Passage) :
    Prop where
  length : passages.length = arrivals.length
  behind : ∀ {k : Nat} {arrival : Nat} {p : Passage},
    arrivals[k]? = some arrival → passages[k]? = some p → arrival ≤ p.returned
  spaced : ∀ {k : Nat} {p q : Passage},
    passages[k]? = some p → passages[k + 1]? = some q → p.slot + gap ≤ q.slot
  prompt : ∀ p ∈ passages, p.slot ≤ p.returned ∧ p.returned < p.slot + 1000000
  inOrder : passages.Pairwise fun p q => p.returned ≤ q.returned
  apart : ∀ {i j : Nat} {p q : Passage}, i < j → passages[i]? = some p → passages[j]? = some q →
    p.returned + (j - i) * gap < q.returned + 1000000
  /-- No slot is wasted, and no rounding adds up. -/
  earliest : 1000000 ≤ gap → (∀ first, arrivals.head? = some first → created ≤ first) →
    ∀ {k : Nat} {p : Passage}, passages[k]? = some p →
      IsGreatest (bookings gap arrivals k) p.slot

variable {gap next free now nanos i j k : Nat} {arrivals waits : List Nat} {p q : Passage}

theorem roundUp_bounds (nanos : Nat) :
    nanos ≤ roundUp nanos ∧ roundUp nanos < nanos + nanosPerMilli := by
  have milli : nanosPerMilli = 1000000 := rfl
  rw [roundUp, milli]
  omega

theorem pass_slot : (pass next now).slot = max next now := rfl

theorem pass_prompt (next now : Nat) : (pass next now).slot ≤ (pass next now).returned ∧
    (pass next now).returned < (pass next now).slot + nanosPerMilli := by
  have late := roundUp_bounds next
  have milli : 0 < nanosPerMilli := by decide
  rw [pass]
  dsimp only
  split <;> omega

theorem le_returned (next now : Nat) : now ≤ (pass next now).returned :=
  Nat.le_trans (Nat.le_max_right next now) (pass_prompt next now).1

theorem queued_cons (gap next free arrival : Nat) (arrivals : List Nat) :
    queued gap next free (arrival :: arrivals) =
      pass next (max free arrival) ::
        queued gap ((pass next (max free arrival)).slot + gap)
          (pass next (max free arrival)).returned arrivals := rfl

theorem length_queued : (queued gap next free arrivals).length = arrivals.length := by
  induction arrivals generalizing next free with
  | nil => rfl
  | cons arrival arrivals ih => rw [queued_cons, List.length_cons, List.length_cons, ih]

theorem queued_prompt : ∀ p ∈ queued gap next free arrivals,
    p.slot ≤ p.returned ∧ p.returned < p.slot + nanosPerMilli := by
  induction arrivals generalizing next free with
  | nil => nofun
  | cons arrival arrivals ih =>
    rw [queued_cons]
    exact List.forall_mem_cons.mpr ⟨pass_prompt _ _, ih⟩

theorem queued_behind {arrival : Nat} (came : arrivals[k]? = some arrival)
    (passed : (queued gap next free arrivals)[k]? = some p) : arrival ≤ p.returned := by
  induction arrivals generalizing next free k with
  | nil => cases came
  | cons first arrivals ih =>
    rw [queued_cons] at passed
    cases k with
    | zero =>
      cases came
      cases passed
      exact Nat.le_trans (Nat.le_max_right free _) (le_returned next _)
    | succ k => exact ih came passed

theorem free_le_returned : ∀ p ∈ queued gap next free arrivals, free ≤ p.returned := by
  induction arrivals generalizing next free with
  | nil => nofun
  | cons arrival arrivals ih =>
    have first : free ≤ (pass next (max free arrival)).returned :=
      Nat.le_trans (Nat.le_max_left free arrival) (le_returned next _)
    rw [queued_cons]
    exact List.forall_mem_cons.mpr ⟨first, fun p mem => Nat.le_trans first (ih p mem)⟩

theorem queued_inOrder :
    (queued gap next free arrivals).Pairwise fun p q => p.returned ≤ q.returned := by
  induction arrivals generalizing next free with
  | nil => exact List.Pairwise.nil
  | cons arrival arrivals ih =>
    rw [queued_cons]
    exact List.pairwise_cons.mpr ⟨free_le_returned, ih⟩

/-- Every caller moves the next free slot by the distance at least. -/
theorem add_mul_le_slot (passed : (queued gap next free arrivals)[k]? = some p) :
    next + k * gap ≤ p.slot := by
  induction arrivals generalizing next free k with
  | nil => cases passed
  | cons arrival arrivals ih =>
    rw [queued_cons] at passed
    have first : next ≤ (pass next (max free arrival)).slot := Nat.le_max_left _ _
    cases k with
    | zero =>
      cases passed
      omega
    | succ k =>
      have later := ih passed
      rw [Nat.succ_mul]
      omega

theorem slots_apart (before : i < j) (first : (queued gap next free arrivals)[i]? = some p)
    (second : (queued gap next free arrivals)[j]? = some q) :
    p.slot + (j - i) * gap ≤ q.slot := by
  induction arrivals generalizing next free i j with
  | nil => cases first
  | cons arrival arrivals ih =>
    rw [queued_cons] at first second
    obtain ⟨j, rfl⟩ := Nat.exists_eq_add_one_of_ne_zero (Nat.ne_zero_of_lt before)
    cases i with
    | zero =>
      cases first
      have later := add_mul_le_slot second
      rw [Nat.sub_zero, Nat.succ_mul]
      omega
    | succ i =>
      have later := ih (Nat.lt_of_succ_lt_succ before) first second
      rwa [Nat.succ_sub_succ]

/-- A slot is the next free one moved on, or one that was booked by an arrival. The lock is free in
time for it: who returns within a millisecond of its slot is back before the slot behind. -/
theorem slot_cases (milli : nanosPerMilli ≤ gap) (inTime : free ≤ next)
    (passed : (queued gap next free arrivals)[k]? = some p) :
    p.slot ∈ upperBounds (bookings gap arrivals k) ∧
      (p.slot = next + k * gap ∨ p.slot ∈ bookings gap arrivals k) := by
  induction arrivals generalizing next free k with
  | nil => cases passed
  | cons arrival arrivals ih =>
    rw [queued_cons] at passed
    have prompt := (pass_prompt next (max free arrival)).2
    have slot : (pass next (max free arrival)).slot = max next arrival := by
      rw [pass_slot]
      omega
    rw [slot] at passed prompt
    cases k with
    | zero =>
      cases passed
      rw [slot]
      constructor
      · rintro t ⟨i, earlier, none, came, rfl⟩
        obtain rfl := Nat.le_zero.mp none
        cases came
        omega
      · rcases Nat.le_total arrival next with early | late
        · exact .inl (by omega)
        · exact .inr ⟨0, arrival, Nat.le_refl _, rfl, by omega⟩
    | succ k =>
      have least := add_mul_le_slot passed
      obtain ⟨bound, isLater⟩ := ih (by omega) passed
      constructor
      · rintro t ⟨i, earlier, upTo, came, rfl⟩
        cases i with
        | zero =>
          cases came
          rw [Nat.sub_zero, Nat.succ_mul]
          omega
        | succ i =>
          rw [Nat.succ_sub_succ]
          exact bound ⟨i, earlier, Nat.le_of_succ_le_succ upTo, came, rfl⟩
      · rcases isLater with moved | ⟨i, earlier, upTo, came, same⟩
        · rw [moved, Nat.succ_mul]
          rcases Nat.le_total arrival next with early | late
          · exact .inl (by omega)
          · refine .inr ⟨0, arrival, Nat.zero_le _, rfl, ?_⟩
            rw [Nat.sub_zero, Nat.succ_mul]
            omega
        · refine .inr ⟨i + 1, earlier, Nat.succ_le_succ upTo, came, ?_⟩
          rwa [Nat.succ_sub_succ]

theorem queued_paced (gap created : Nat) (arrivals : List Nat) :
    Paced gap created arrivals (queued gap created 0 arrivals) where
  length := length_queued
  behind := queued_behind
  spaced first second := by
    have apart := slots_apart (Nat.lt_succ_self _) first second
    rwa [Nat.succ_sub (Nat.le_refl _), Nat.sub_self, Nat.one_mul] at apart
  prompt := queued_prompt
  inOrder := queued_inOrder
  apart before first second := by
    have apart := slots_apart before first second
    have early := (queued_prompt _ (List.mem_of_getElem? first)).2
    have late := (queued_prompt _ (List.mem_of_getElem? second)).1
    rw [nanosPerMilli] at early
    omega
  earliest milli there k p passed := by
    obtain ⟨bound, isFree | isBooked⟩ := slot_cases milli (Nat.zero_le created) passed
    · -- The slot that was free from the start is not before that of the first caller.
      refine ⟨?_, bound⟩
      cases arrivals with
      | nil => cases passed
      | cons first rest =>
        have booked : first + (k - 0) * gap ∈ bookings gap (first :: rest) k :=
          ⟨0, first, Nat.zero_le k, rfl, rfl⟩
        have after := bound booked
        have present := there first rfl
        rw [Nat.sub_zero] at booked after
        rwa [show p.slot = first + k * gap by omega]
    · exact ⟨isBooked, bound⟩

theorem sequential_eq_queued (next : Nat) (waits : List Nat) (earlier : free ≤ now) :
    sequential gap next now waits =
      queued gap next free ((sequential gap next now waits).map Passage.arrived) := by
  induction waits generalizing next free now with
  | nil => rfl
  | cons wait waits ih =>
    have idle : max free (now + wait) = now + wait := by omega
    have arrived : (pass next (now + wait)).arrived = now + wait := rfl
    rw [sequential, List.map_cons, arrived, queued_cons, idle, ← ih _ (Nat.le_refl _)]

theorem pairwise_sorted {α : Type} (key : α → Nat) (l : List α) :
    (l.mergeSort fun a b => key a ≤ key b).Pairwise fun a b => key a ≤ key b := by
  have sorted : (l.mergeSort fun a b => key a ≤ key b).Pairwise fun a b =>
      decide (key a ≤ key b) = true :=
    List.pairwise_mergeSort (fun a b c => by simpa using Nat.le_trans)
      (fun a b => by simpa using Nat.le_total _ _) l
  exact sorted.imp of_decide_eq_true

/-- Waiting times, each with the number of its caller, in the order of arrival. -/
def inArrivalOrder (waits : List Nat) : List (Nat × Nat) :=
  waits.zipIdx.mergeSort fun a b => a.1 ≤ b.1

/-- The times at which callers that start together come to the lock. -/
def arrivalsOf (waits : List Nat) : List Nat := (inArrivalOrder waits).map (·.1)

theorem inArrivalOrder_perm (waits : List Nat) : (inArrivalOrder waits).Perm waits.zipIdx :=
  List.mergeSort_perm _ _

theorem arrivalsOf_perm (waits : List Nat) : (arrivalsOf waits).Perm waits := by
  have perm := (inArrivalOrder_perm waits).map (·.1)
  rwa [List.zipIdx_map_fst] at perm

theorem arrivalsOf_pairwise (waits : List Nat) : (arrivalsOf waits).Pairwise (· ≤ ·) :=
  List.pairwise_map.mpr (pairwise_sorted _ _)

/-- What is listed with the number of its place comes back in order when sorted by number. -/
theorem map_fst_sorted {α : Type} {order : List Nat} {l : List α}
    (numbers : order.Perm (List.range' 0 order.length)) (same : order.length = l.length) :
    (((order.zip l).mergeSort fun a b => a.1 ≤ b.1).map (·.1)) = List.range' 0 order.length := by
  have perm := ((List.mergeSort_perm (order.zip l) fun a b => a.1 ≤ b.1).map (·.1))
  rw [List.map_fst_zip (Nat.le_of_eq same)] at perm
  exact List.Perm.eq_of_pairwise (fun _ _ _ _ => Nat.le_antisymm)
    (List.pairwise_map.mpr (pairwise_sorted _ _))
    (List.pairwise_le_range' 1) (perm.trans numbers)

/-- Each caller has the passage of its place in the queue. -/
theorem concurrent_perm (gap : Nat) (waits : List Nat) :
    (waits.zip (concurrent gap waits)).Perm
      ((arrivalsOf waits).zip (queued gap 0 0 (arrivalsOf waits))) := by
  let order := (inArrivalOrder waits).map (·.2)
  let passages := queued gap 0 0 (arrivalsOf waits)
  let byCaller := (order.zip passages).mergeSort fun a b => a.1 ≤ b.1
  let withWait : Nat × Passage → Nat × Passage := fun z => (waits.getD z.1 0, z.2)
  have inOrder : order.length = waits.length := by
    rw [List.length_map, (inArrivalOrder_perm waits).length_eq, List.length_zipIdx]
  have same : order.length = passages.length := by
    rw [length_queued, arrivalsOf, List.length_map, List.length_map]
  have numbers : order.Perm (List.range' 0 order.length) := by
    have perm := (inArrivalOrder_perm waits).map (·.2)
    rwa [List.zipIdx_map_snd, ← inOrder] at perm
  have back : byCaller.map (fun z => waits.getD z.1 0) = waits := by
    have callers : byCaller.map (·.1) = List.range' 0 order.length := map_fst_sorted numbers same
    have split : byCaller.map (fun z => waits.getD z.1 0) =
        (byCaller.map (·.1)).map (waits.getD · 0) := by rw [List.map_map]; rfl
    rw [split, callers, inOrder]
    refine List.ext_getElem (by simp) fun i inside there => ?_
    simp [there]
  have paired : waits.zip (concurrent gap waits) = byCaller.map withWait := by
    have named : concurrent gap waits = byCaller.map (·.2) := rfl
    rw [named, ← List.zip_map', back]
  have arrived : arrivalsOf waits = order.map (waits.getD · 0) := by
    rw [arrivalsOf, List.map_map]
    refine List.map_congr_left fun a mem => ?_
    have there := List.mk_mem_zipIdx_iff_getElem?.mp ((inArrivalOrder_perm waits).mem_iff.mp mem)
    simp [there]
  have queue : (arrivalsOf waits).zip passages = (order.zip passages).map withWait := by
    rw [arrived, List.zip_map_left]
    rfl
  rw [paired, queue]
  exact (List.mergeSort_perm _ _).map withWait

/-- Callers pass at the pace of the throttle, whether each comes after the one before has returned,
or they queue, or they start together and queue in the order in which they come. -/
theorem acquires_paced (requestsPerSecond created : Nat) :
    (∀ arrivals, Paced (1000000000 / max requestsPerSecond 1) created arrivals
      (queued (interval requestsPerSecond) created 0 arrivals)) ∧
    (∀ start waits, Paced (1000000000 / max requestsPerSecond 1) created
      ((sequential (interval requestsPerSecond) created start waits).map Passage.arrived)
      (sequential (interval requestsPerSecond) created start waits)) ∧
    ∀ waits, ∃ arrivals : List Nat, arrivals.Perm waits ∧ arrivals.Pairwise (· ≤ ·) ∧
      (waits.zip (concurrent (interval requestsPerSecond) waits)).Perm
        (arrivals.zip (queued (interval requestsPerSecond) 0 0 arrivals)) := by
  have gap : 1000000000 / max requestsPerSecond 1 = interval requestsPerSecond := rfl
  rw [gap]
  refine ⟨queued_paced _ _, fun start waits => ?_, fun waits => ⟨arrivalsOf waits,
    arrivalsOf_perm waits, arrivalsOf_pairwise waits, concurrent_perm _ waits⟩⟩
  have paced := queued_paced (interval requestsPerSecond) created
    ((sequential (interval requestsPerSecond) created start waits).map Passage.arrived)
  rwa [← sequential_eq_queued created waits (Nat.zero_le start)] at paced

/-- Three calls at once: the second returns late by a part of a millisecond and the third is on its
own slot all the same. -/
example : (queued (interval 300) 0 0 [0, 0, 0]).map (fun p => (p.slot, p.returned)) =
    [(0, 0), (3333333, 4000000), (6666666, 7000000)] := by
  decide

end Geoflow.Throttle
