import Geoflow.Proofs.Extract.Ending

set_option autoImplicit false

namespace Geoflow

section

variable {σ : Type} {c : Consumer σ} {n : Nat} {state : σ} {items : List StreamItem}
  {run : StreamRun σ} {e : ExtractError} {earlier later : List Delivery} {d : Delivery}

/-- What the consumer makes of a delivery after those before it. -/
def Consumer.answer (c : Consumer σ) (state : σ) (earlier : List Delivery) (d : Delivery) :
    σ × Except ConsumerFailure Unit :=
  c.handle (c.after state (earlier.map Delivery.batch)) d.batch

/-- Neither the token nor a call ends the stream. A call with a short batch is the last one anyway,
so a cancellation in it comes too late. -/
structure StreamRun.Undisturbed (c : Consumer σ) (n : Nat) (state : σ) (run : StreamRun σ) :
    Prop where
  beforehand : c.isCancelled state = false
  taken : ∀ earlier d later, run.progress.deliveries = earlier ++ d :: later →
    (c.answer state earlier d).2 = .ok ()
  uncancelled : ∀ earlier d later, run.progress.deliveries = earlier ++ d :: later →
    d.batch.length = n → c.isCancelled (c.answer state earlier d).1 = false

/-- A run that was truncated by the first event to occur, or by none. -/
structure StreamRun.Truncated (c : Consumer σ) (n : Nat) (state : σ) (items : List StreamItem)
    (run : StreamRun σ) : Prop where
  handed : run.progress.deliveries.map Delivery.batch <+: chunks n (leadingRecords items)
  short : ∀ d ∈ run.progress.deliveries, d.batch.length < n →
    firstError? items = none ∧ d.pulled = items.length
  beforehand : c.isCancelled state = true →
    run.progress.deliveries = [] ∧ run.progress.pulled = 0 ∧ run.outcome = .error .cancelled
  nothingAfter : ∀ earlier d later, run.progress.deliveries = earlier ++ d :: later →
    (c.answer state earlier d).2 ≠ .ok () ∨ c.isCancelled (c.answer state earlier d).1 = true →
      later = [] ∧ run.progress.pulled = d.pulled
  failed : ∀ earlier d later failure, run.progress.deliveries = earlier ++ d :: later →
    (c.answer state earlier d).2 = .error failure → run.outcome = .error (.consumer failure)
  cancelled : ∀ earlier d later, run.progress.deliveries = earlier ++ d :: later →
    d.batch.length = n → (c.answer state earlier d).2 = .ok () →
      c.isCancelled (c.answer state earlier d).1 = true → run.outcome = .error .cancelled
  faulted : ∀ e, run.Undisturbed c n state → firstError? items = some e →
    run.outcome = .error e ∧ run.progress.pulled = (leadingRows items).length + 1 ∧
      run.progress.deliveries.map Delivery.batch =
        (chunks n (leadingRecords items)).filter (fun block => block.length == n)
  finished : run.Undisturbed c n state → firstError? items = none →
    run.outcome = .ok ⟨.ofNat items.length, .ofNat run.progress.deliveries.length⟩ ∧
      run.progress.pulled = items.length ∧
      run.progress.deliveries.map Delivery.batch = chunks n (leadingRecords items)

theorem length_of_firstError?_eq_none (faultless : firstError? items = none) :
    (leadingRecords items).length = items.length := by
  induction items with
  | nil => rfl
  | cons item rest ih =>
    cases item with
    | error e => cases faultless
    | ok row =>
      rw [List.length_cons, ← ih faultless]
      rfl

theorem StreamRun.Undisturbed.calm {batches : List (List CanonicalRecord)}
    (undisturbed : run.Undisturbed c n state) (short : ∀ block ∈ batches, block.length ≤ n)
    (deliveries : run.progress.deliveries = stamped 0 batches) : c.Calm n state batches := by
  apply Consumer.calm_of_forall
  intro before batch later split
  rw [split, stamped_append, stamped] at deliveries
  have taken := undisturbed.taken _ _ _ deliveries
  have uncancelled := undisturbed.uncancelled _ _ _ deliveries
  rw [Consumer.answer, map_batch_stamped] at taken uncancelled
  refine Consumer.stop?_eq_none_iff.mpr ⟨taken, fun full => uncancelled ?_⟩
  exact Nat.le_antisymm (short batch (by rw [split]; simp)) full

namespace StreamRun.Ended

variable (ended : run.Ended c n state items)
include ended

theorem handed (positive : 0 < n) :
    run.progress.deliveries.map Delivery.batch <+: chunks n (leadingRecords items) := by
  obtain ⟨batches, deliveries, ending⟩ := ended
  rw [deliveries, map_batch_stamped]
  exact ending.handed positive

/-- A short batch ends a stream that has no error. -/
theorem of_short (positive : 0 < n) (split : run.progress.deliveries = earlier ++ d :: later)
    (short : d.batch.length < n) :
    firstError? items = none ∧ later = [] ∧ d.pulled = items.length ∧
      run.progress.pulled = items.length := by
  obtain ⟨batches, deliveries, ending⟩ := ended
  obtain ⟨inBatches, pulled⟩ := split_of_stamped (deliveries ▸ split)
  obtain ⟨faultless, last, whole⟩ := ending.of_short positive inBatches short
  have total : batches.flatten.length = items.length := by
    rw [whole, length_of_firstError?_eq_none faultless]
  refine ⟨faultless, List.map_eq_nil_iff.mp last, ?_, ?_⟩
  · rw [pulled, Nat.zero_add, ← total, inBatches, last]
  · rw [ending.pulled_eq positive faultless, total]

section Call

variable (split : run.progress.deliveries = earlier ++ d :: later)
include split

/-- A call goes on, or it is the last one and decides the outcome. -/
theorem answer_cases :
    c.stop? n (c.after state (earlier.map Delivery.batch)) d.batch = none ∨
      later = [] ∧ run.progress.pulled = d.pulled ∧
        ∃ e, c.stop? n (c.after state (earlier.map Delivery.batch)) d.batch = some e ∧
          run.outcome = .error e := by
  obtain ⟨batches, deliveries, ending⟩ := ended
  obtain ⟨inBatches, pulled⟩ := split_of_stamped (deliveries ▸ split)
  rcases ending.call inBatches with goesOn | ⟨last, atEnd, stop⟩
  · exact Or.inl goesOn
  · have none : later = [] := List.map_eq_nil_iff.mp last
    refine Or.inr ⟨none, ?_, stop⟩
    rw [atEnd, pulled, inBatches, last, Nat.zero_add]

theorem outcome_of_stop
    (stop : c.stop? n (c.after state (earlier.map Delivery.batch)) d.batch = some e) :
    run.outcome = .error e := by
  rcases ended.answer_cases split with goesOn | ⟨-, -, first, ends, outcome⟩
  · rw [stop] at goesOn
    cases goesOn
  · rw [stop] at ends
    rw [outcome, Option.some.inj ends]

theorem nothing_after (positive : 0 < n)
    (event : (c.answer state earlier d).2 ≠ .ok () ∨
      c.isCancelled (c.answer state earlier d).1 = true) :
    later = [] ∧ run.progress.pulled = d.pulled := by
  rcases ended.answer_cases split with goesOn | ⟨last, pulled, -⟩
  · -- The call goes on though it failed or cancelled, so it cancelled with a short batch.
    obtain ⟨taken, uncancelled⟩ := Consumer.stop?_eq_none_iff.mp goesOn
    have short : d.batch.length < n := by
      by_contra full
      have running := uncancelled (Nat.le_of_not_lt full)
      rcases event with failed | cancelled
      · exact failed taken
      · rw [Consumer.answer, running] at cancelled
        cases cancelled
    obtain ⟨-, last, pulled, all⟩ := ended.of_short positive split short
    exact ⟨last, by rw [all, pulled]⟩
  · exact ⟨last, pulled⟩

end Call

section Undisturbed

variable (positive : 0 < n) (undisturbed : run.Undisturbed c n state)
include positive undisturbed

theorem of_error (fault : firstError? items = some e) :
    run.outcome = .error e ∧ run.progress.pulled = (leadingRows items).length + 1 ∧
      run.progress.deliveries.map Delivery.batch =
        (chunks n (leadingRecords items)).filter (fun block => block.length == n) := by
  obtain ⟨batches, deliveries, ending⟩ := ended
  have calm := undisturbed.calm (ending.length_le positive) deliveries
  obtain ⟨outcome, pulled, all⟩ := ending.of_error undisturbed.beforehand calm fault
  rw [leadingRecords, List.length_map] at pulled
  exact ⟨outcome, pulled, by rw [deliveries, map_batch_stamped, all]⟩

theorem of_no_error (faultless : firstError? items = none) :
    run.outcome = .ok ⟨.ofNat items.length, .ofNat run.progress.deliveries.length⟩ ∧
      run.progress.pulled = items.length ∧
      run.progress.deliveries.map Delivery.batch = chunks n (leadingRecords items) := by
  obtain ⟨batches, deliveries, ending⟩ := ended
  have calm := undisturbed.calm (ending.length_le positive) deliveries
  obtain ⟨outcome, pulled, all⟩ := ending.of_no_error undisturbed.beforehand calm faultless
  rw [length_of_firstError?_eq_none faultless] at outcome pulled
  refine ⟨?_, pulled, by rw [deliveries, map_batch_stamped, all]⟩
  rw [outcome, deliveries, length_stamped]

end Undisturbed

end StreamRun.Ended

theorem StreamRun.Followed.truncated (followed : run.Followed c n state items)
    (positive : 0 < n) : run.Truncated c n state items := by
  have ended := followed.ended
  exact {
    handed := ended.handed positive
    short := by
      intro d mem short
      obtain ⟨earlier, later, split⟩ := List.append_of_mem mem
      obtain ⟨faultless, -, pulled, -⟩ := ended.of_short positive split short
      exact ⟨faultless, pulled⟩
    beforehand := by
      intro cancelled
      rw [followed.beforehand cancelled]
      exact ⟨rfl, rfl, rfl⟩
    nothingAfter := by
      intro earlier d later split event
      exact ended.nothing_after split positive event
    failed := by
      intro earlier d later failure split failed
      exact ended.outcome_of_stop split (Consumer.stop?_of_failed failed)
    cancelled := by
      intro earlier d later split full taken cancelled
      have stop := Consumer.stop?_of_cancelled (Nat.le_of_eq full.symm) taken cancelled
      exact ended.outcome_of_stop split stop
    faulted := by
      intro e undisturbed fault
      exact ended.of_error positive undisturbed fault
    finished := by
      intro undisturbed faultless
      exact ended.of_no_error positive undisturbed faultless }

/-- With a buffer for a batch, whatever interrupts a stream truncates it and does nothing else. -/
theorem streamBatches_truncated_iff (c : Consumer σ) (size : Nat) (state : σ)
    (items : List StreamItem) :
    Buffered (size < 2 ^ 57) (fun run => run.Truncated c (max size 1) state items)
      (streamBatches c size state items) := by
  have positive : 0 < max size 1 := by omega
  exact (streamBatches_followed c size state items).imp fun run followed =>
    followed.truncated positive

def cancelledBeforehand : Consumer Nat where
  handle calls _ := (calls + 1, .ok ())
  isCancelled _ := true

/-- Where there is no buffer even a cancellation beforehand is not heard. -/
theorem cancellation_unheard : cancelledBeforehand.isCancelled 0 = true ∧ ¬ ∃ run,
    streamBatches cancelledBeforehand 9223372036854775807 0 [.ok ⟨[]⟩] = .ok run ∧
      run.progress.pulled = 0 ∧ run.outcome = .error .cancelled := by
  refine ⟨rfl, ?_⟩
  rintro ⟨run, streamed, -⟩
  rw [streamBatches_of_le cancelledBeforehand 0 [.ok ⟨[]⟩] (by decide)] at streamed
  cases streamed

def cancelling : Consumer Nat where
  handle calls _ := (calls + 1, .ok ())
  isCancelled calls := calls == 2

/-- The second batch is full in one case and short in the other. -/
example :
    let outcome := fun rows => (streamBatches cancelling 2 0 (.replicate rows (.ok ⟨[]⟩))).map
      (·.outcome)
    outcome 4 = .ok (.error .cancelled) ∧ outcome 3 = .ok (.ok ⟨3, 2⟩) := by
  constructor <;> rfl

end

end Geoflow
