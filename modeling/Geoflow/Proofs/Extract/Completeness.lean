import Geoflow.Proofs.Extract.Ending

set_option autoImplicit false

namespace Geoflow

structure Consumer.Steady {σ : Type} (c : Consumer σ) (state : σ) : Prop where
  taken : ∀ batches batch, (c.handle (c.after state batches) batch).2 = .ok ()
  uncancelled : ∀ batches, c.isCancelled (c.after state batches) = false

/-- The records that were handed over before item number `m` was pulled. -/
def handedBefore (m : Nat) (deliveries : List Delivery) : Nat :=
  (deliveries.filter fun d => d.pulled < m).flatMap Delivery.batch |>.length

/-- A run that hands all rows over in batches of length `n`. -/
structure StreamRun.Complete {σ : Type} (n : Nat) (rows : List Row) (run : StreamRun σ) : Prop where
  records : (run.progress.deliveries.map Delivery.batch).flatten = rows.map Row.toCanonical
  full : ∀ earlier d later, run.progress.deliveries = earlier ++ d :: later → later ≠ [] →
    d.batch.length = n
  sized : ∀ d ∈ run.progress.deliveries, 1 ≤ d.batch.length ∧ d.batch.length ≤ n
  noCall : rows = [] → run.progress.deliveries = []
  pulled : ∀ earlier d later, run.progress.deliveries = earlier ++ d :: later →
    d.pulled = (earlier.map Delivery.batch ++ [d.batch]).flatten.length
  /-- When item number `m` has been pulled, at most a batch of records waits. -/
  buffer : ∀ m ≤ rows.length, m ≤ handedBefore m run.progress.deliveries + n
  outcome : run.outcome = .ok ⟨.ofNat rows.length, .ofNat run.progress.deliveries.length⟩
  /-- The counters are words, which do not run over while the number of rows is one. -/
  counted : rows.length < UInt64.size → ∃ stats, run.outcome = .ok stats ∧
    stats.rows.toNat = rows.length ∧ stats.batches.toNat = run.progress.deliveries.length

section

variable {σ : Type} {c : Consumer σ} {n : Nat} {state : σ} {rows : List Row}
  {batches : List (List CanonicalRecord)}

theorem Consumer.Steady.calm (steady : c.Steady state) : c.Calm n state batches := by
  apply Consumer.calm_of_forall
  intro before batch later _
  have uncancelled := steady.uncancelled (before ++ [batch])
  rw [Consumer.after_snoc] at uncancelled
  exact Consumer.stop?_eq_none_iff.mpr ⟨steady.taken before batch, fun _ => uncancelled⟩

theorem leadingRecords_of_rows :
    leadingRecords (rows.map .ok) = rows.map Row.toCanonical := by
  simpa using leadingRecords_append rows []

theorem firstError?_of_rows : firstError? (rows.map .ok) = none := by
  simpa [firstError?] using firstError?_append rows []

theorem handedBefore_cons (m : Nat) (d : Delivery) (rest : List Delivery) :
    handedBefore m (d :: rest) =
      (if d.pulled < m then d.batch.length else 0) + handedBefore m rest := by
  unfold handedBefore
  by_cases earlier : d.pulled < m
  · rw [List.filter_cons_of_pos (by simpa using earlier), if_pos earlier, List.flatMap_cons,
      List.length_append]
  · rw [List.filter_cons_of_neg (by simpa using earlier), if_neg earlier, Nat.zero_add]

/-- Of the items that were pulled, only a batch is not handed over. -/
theorem le_handedBefore_stamped (short : ∀ block ∈ batches, block.length ≤ n) (k m : Nat)
    (pulled : m ≤ k + batches.flatten.length) : m ≤ k + handedBefore m (stamped k batches) + n := by
  induction batches generalizing k with
  | nil =>
    rw [List.flatten_nil, List.length_nil] at pulled
    omega
  | cons batch rest ih =>
    obtain ⟨bound, others⟩ := List.forall_mem_cons.mp short
    rw [List.flatten_cons, List.length_append] at pulled
    have later := ih others (k + batch.length) (by omega)
    rw [stamped, handedBefore_cons]
    by_cases counted : k + batch.length < m
    · rw [if_pos counted]
      dsimp only
      omega
    · omega

theorem length_le_flatten (nonempty : ∀ block ∈ batches, 1 ≤ block.length) :
    batches.length ≤ batches.flatten.length := by
  induction batches with
  | nil => exact Nat.zero_le _
  | cons batch rest ih =>
    obtain ⟨here, others⟩ := List.forall_mem_cons.mp nonempty
    have later := ih others
    rw [List.flatten_cons, List.length_append, List.length_cons]
    omega

theorem StreamRun.Ended.complete {run : StreamRun σ} (ended : run.Ended c n state (rows.map .ok))
    (positive : 0 < n) (steady : c.Steady state) : run.Complete n rows := by
  have running : c.isCancelled state = false := steady.uncancelled []
  obtain ⟨batches, deliveries, ending⟩ := ended
  obtain ⟨outcome, -, handed⟩ := ending.of_no_error running steady.calm firstError?_of_rows
  have length_le := ending.length_le positive
  rw [leadingRecords_of_rows] at outcome handed
  have whole : batches.flatten = rows.map Row.toCanonical := by
    rw [handed, flatten_chunks positive]
  have total : batches.flatten.length = rows.length := by rw [whole, List.length_map]
  have nonempty : ∀ block ∈ batches, 1 ≤ block.length := by
    intro block mem
    exact (length_of_mem_chunks (handed ▸ mem)).1
  rw [List.length_map] at outcome
  exact {
    records := by rw [deliveries, map_batch_stamped, whole]
    full := by
      intro earlier d later split inner
      obtain ⟨inBatches, -⟩ := split_of_stamped (deliveries ▸ split)
      refine length_of_chunks_eq (handed ▸ inBatches) ?_
      rwa [ne_eq, List.map_eq_nil_iff]
    sized := by
      intro d mem
      have inBatches := List.mem_map_of_mem (f := Delivery.batch) mem
      rw [deliveries, map_batch_stamped, handed] at inBatches
      exact length_of_mem_chunks inBatches
    noCall := by
      intro empty
      rw [deliveries, handed, empty, List.map_nil, chunks_nil, stamped]
    pulled := by
      intro earlier d later split
      rw [(split_of_stamped (deliveries ▸ split)).2, Nat.zero_add]
    buffer := by
      intro m reached
      have bound := le_handedBefore_stamped length_le 0 m (by omega)
      rwa [deliveries, ← Nat.zero_add (handedBefore m _)]
    outcome := by rw [outcome, deliveries, length_stamped]
    counted := by
      intro fits
      have fewer := length_le_flatten nonempty
      refine ⟨_, outcome, UInt64.toNat_ofNat_of_lt' fits, ?_⟩
      rw [deliveries, length_stamped]
      exact UInt64.toNat_ofNat_of_lt' (by omega) }

/-- With a buffer for a batch, which there is for fewer than `2 ^ 57` records, a steady consumer
gets all rows, each batch as soon as it is full. -/
theorem streamBatches_complete_iff (c : Consumer σ) (size : Nat) (state : σ) (rows : List Row)
    (steady : c.Steady state) :
    Buffered (size < 2 ^ 57) (fun run => run.Complete (max size 1) rows)
      (streamBatches c size state (rows.map .ok)) := by
  have positive : 0 < max size 1 := by omega
  exact (streamBatches_followed c size state (rows.map .ok)).imp fun run followed =>
    followed.ended.complete positive steady

def counting : Consumer Nat where
  handle count batch := (count + batch.length, .ok ())
  isCancelled _ := false

def fiveRows : List Row := [0, 1, 2, 3, 4].map fun i => ⟨[("id", .int i)]⟩

theorem counting_steady : counting.Steady 0 := ⟨fun _ _ => rfl, fun _ => rfl⟩

theorem streamBatches_complete_iff_five : ∃ run,
    streamBatches counting 2 0 (fiveRows.map .ok) = .ok run ∧ run.Complete 2 fiveRows :=
  (streamBatches_complete_iff counting 2 0 fiveRows counting_steady).holds_iff.mpr (by decide)

/-- The greatest number of a signed word is too large for a batch. -/
theorem five_rows_undelivered : counting.Steady 0 ∧ ¬ ∃ run,
    streamBatches counting 9223372036854775807 0 (fiveRows.map .ok) = .ok run ∧
      run.Complete 9223372036854775807 fiveRows := by
  refine ⟨counting_steady, ?_⟩
  rintro ⟨run, streamed, -⟩
  rw [streamBatches_of_le counting 0 (fiveRows.map .ok) (by decide)] at streamed
  cases streamed

example : (streamBatches counting 2 0 (fiveRows.map .ok)).map (fun run =>
    run.progress.deliveries.map fun d => (d.pulled, d.batch.length)) =
      .ok [(2, 2), (4, 2), (5, 1)] := by
  rfl

end

end Geoflow
