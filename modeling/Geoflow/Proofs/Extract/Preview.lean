import Geoflow.Proofs.Extract.Completeness
import Geoflow.Proofs.Extract.Failure

set_option autoImplicit false

namespace Geoflow

/-- What comes of reading at most `cap` items: all of them are rows, or one of them is an error. -/
structure Materialized.Capped (cap : Nat) (items : List StreamItem) (m : Materialized) : Prop where
  pulled_le : m.pulled ≤ cap
  failed : ∀ e, firstError? (items.take cap) = some e →
    m.rows = .error e ∧ m.pulled = (leadingRows items).length + 1
  read : firstError? (items.take cap) = none →
    ∃ rows, rows.map .ok = items.take cap ∧ m.rows = .ok rows ∧ m.pulled = min cap items.length

/-- A preview of at most `cap` rows against a whole run: it fails only if the run does, and it has
the first records of a run that succeeds. -/
structure Materialized.Foretells {σ : Type} (cap : Nat) (m : Materialized) (run : StreamRun σ) :
    Prop where
  failed : ∀ e, m.rows = .error e → run.outcome = .error e
  shown : ∀ stats, run.outcome = .ok stats → ∃ rows, m.rows = .ok rows ∧
    rows.map Row.toCanonical = (run.progress.deliveries.map Delivery.batch).flatten.take cap
  pulled_le : m.pulled ≤ run.progress.pulled

section

variable {cap : Nat} {items : List StreamItem} {e : ExtractError}

theorem leadingRows_take (cap : Nat) (items : List StreamItem) :
    leadingRows (items.take cap) = (leadingRows items).take cap := by
  induction items generalizing cap with
  | nil => simp [leadingRows]
  | cons item rest ih =>
    cases cap with
    | zero => rfl
    | succ cap =>
      cases item with
      | error e => rfl
      | ok row => rw [List.take_succ_cons, leadingRows, leadingRows, ih, List.take_succ_cons]

theorem map_leadingRows (faultless : firstError? items = none) :
    (leadingRows items).map .ok = items := by
  induction items with
  | nil => rfl
  | cons item rest ih =>
    cases item with
    | error e => cases faultless
    | ok row => rw [leadingRows, List.map_cons, ih faultless]

theorem firstError?_of_take (fault : firstError? (items.take cap) = some e) :
    firstError? items = some e := by
  induction items generalizing cap with
  | nil =>
    rw [List.take_nil] at fault
    cases fault
  | cons item rest ih =>
    cases cap with
    | zero => cases fault
    | succ cap =>
      cases item with
      | error first =>
        cases fault
        rfl
      | ok row => exact ih fault

theorem materialize_of_error (fault : firstError? (items.take cap) = some e) :
    materialize cap items = ⟨(leadingRows items).length + 1, .error e⟩ := by
  induction items generalizing cap with
  | nil =>
    rw [List.take_nil] at fault
    cases fault
  | cons item rest ih =>
    cases cap with
    | zero => cases fault
    | succ cap =>
      cases item with
      | error first =>
        cases fault
        rfl
      | ok row =>
        rw [materialize, ih fault]
        rfl

theorem materialize_of_rows (faultless : firstError? (items.take cap) = none) :
    materialize cap items =
      ⟨(leadingRows (items.take cap)).length, .ok (leadingRows (items.take cap))⟩ := by
  induction items generalizing cap with
  | nil =>
    rw [List.take_nil]
    cases cap <;> rfl
  | cons item rest ih =>
    cases cap with
    | zero => rfl
    | succ cap =>
      cases item with
      | error first => cases faultless
      | ok row =>
        rw [materialize, ih faultless]
        rfl

theorem materialize_capped (cap : Nat) (items : List StreamItem) :
    (materialize cap items).Capped cap items where
  pulled_le := materialize_pulled_le cap items
  failed := by
    intro e fault
    rw [materialize_of_error fault]
    exact ⟨rfl, rfl⟩
  read := by
    intro faultless
    have rows := map_leadingRows faultless
    have length := congrArg List.length rows
    rw [List.length_map, List.length_take] at length
    rw [materialize_of_rows faultless]
    exact ⟨_, rows, rfl, length⟩

end

section

variable {σ : Type} {c : Consumer σ} {state : σ} {items : List StreamItem} {e : ExtractError}
  {n cap : Nat} {run : StreamRun σ}

namespace StreamRun.Ended

variable (ended : run.Ended c n state items) (steady : c.Steady state)
include ended steady

theorem steady_of_error (fault : firstError? items = some e) :
    run.outcome = .error e ∧ run.progress.pulled = (leadingRows items).length + 1 := by
  obtain ⟨batches, -, ending⟩ := ended
  obtain ⟨outcome, pulled, -⟩ := ending.of_error (steady.uncancelled []) steady.calm fault
  rw [leadingRecords, List.length_map] at pulled
  exact ⟨outcome, pulled⟩

theorem steady_of_rows (positive : 0 < n) (faultless : firstError? items = none) :
    (run.progress.deliveries.map Delivery.batch).flatten = leadingRecords items ∧
      run.progress.pulled = (leadingRows items).length := by
  obtain ⟨batches, deliveries, ending⟩ := ended
  obtain ⟨-, pulled, handed⟩ := ending.of_no_error (steady.uncancelled []) steady.calm faultless
  rw [leadingRecords, List.length_map] at pulled
  refine ⟨?_, pulled⟩
  rw [deliveries, map_batch_stamped, handed, flatten_chunks positive]

theorem foretold (positive : 0 < n) : (materialize cap items).Foretells cap run := by
  cases early : firstError? (items.take cap) with
  | some e =>
    have fault := firstError?_of_take early
    obtain ⟨outcome, pulled⟩ := ended.steady_of_error steady fault
    rw [materialize_of_error early]
    refine ⟨?_, ?_, ?_⟩
    · intro other failed
      cases failed
      exact outcome
    · intro stats succeeded
      rw [outcome] at succeeded
      cases succeeded
    · exact Nat.le_of_eq pulled.symm
  | none =>
    have shorter : (leadingRows (items.take cap)).length ≤ (leadingRows items).length := by
      rw [leadingRows_take]
      exact List.length_take_le' cap _
    rw [materialize_of_rows early]
    refine ⟨?_, ?_, ?_⟩
    · intro e failed
      cases failed
    · intro stats succeeded
      refine ⟨_, rfl, ?_⟩
      cases fault : firstError? items with
      | some e =>
        rw [(ended.steady_of_error steady fault).1] at succeeded
        cases succeeded
      | none =>
        rw [(ended.steady_of_rows steady positive fault).1, leadingRows_take, leadingRecords,
          List.map_take]
    · cases fault : firstError? items with
      | some e =>
        rw [(ended.steady_of_error steady fault).2]
        exact Nat.le_succ_of_le shorter
      | none =>
        rw [(ended.steady_of_rows steady positive fault).2]
        exact shorter

end StreamRun.Ended

/-- What a preview shows is what an undisturbed run of the same items hands over first, if there is
a buffer for its batches. The preview makes do with a buffer of its own. -/
theorem materialize_foretells_iff (cap size : Nat) (c : Consumer σ) (state : σ)
    (items : List StreamItem) (steady : c.Steady state) :
    (materialize cap items).Capped cap items ∧
      Buffered (size < 2 ^ 57) (fun run => (materialize cap items).Foretells cap run)
        (streamBatches c size state items) := by
  have positive : 0 < max size 1 := by omega
  exact ⟨materialize_capped cap items, (streamBatches_followed c size state items).imp
    fun run followed => followed.ended.foretold steady positive⟩

/-- Three rows and then an error, to which a preview of four comes and one of two does not. -/
def brokenItems : List StreamItem :=
  (fiveRows.take 3).map .ok ++ [.error (.execution "connection lost"), .ok ⟨[]⟩]

theorem materialize_foretells_iff_broken :
    counting.Steady 0 ∧ (materialize 4 brokenItems).Capped 4 brokenItems ∧
      ∃ run, streamBatches counting 2 0 brokenItems = .ok run ∧
        (materialize 4 brokenItems).Foretells 4 run ∧
        run.outcome = .error (.execution "connection lost") := by
  obtain ⟨capped, buffered⟩ := materialize_foretells_iff 4 2 counting 0 brokenItems counting_steady
  obtain ⟨run, streamed, foretells⟩ := buffered.holds_iff.mpr (by decide)
  exact ⟨counting_steady, capped, run, streamed, foretells, foretells.failed _ rfl⟩

/-- A preview fails with the error of its first item, which no run of that size comes to. -/
theorem failure_not_shared : counting.Steady 0 ∧
    (materialize 1 [.error (.execution "connection lost")]).rows =
      .error (.execution "connection lost") ∧
    ¬ ∃ run, streamBatches counting 9223372036854775807 0
        [.error (.execution "connection lost")] = .ok run ∧
      run.outcome = .error (.execution "connection lost") := by
  refine ⟨counting_steady, rfl, ?_⟩
  rintro ⟨run, streamed, -⟩
  rw [streamBatches_of_le counting 0 [.error (.execution "connection lost")] (by decide)]
    at streamed
  cases streamed

example : (materialize 2 brokenItems).rows = .ok (fiveRows.take 2) ∧
    (materialize 2 brokenItems).pulled = 2 := by
  constructor <;> rfl

end

end Geoflow
