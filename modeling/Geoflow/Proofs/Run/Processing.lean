import Geoflow.Run.Runner

set_option autoImplicit false

namespace Geoflow

/-- An answer that ends a run. -/
def SinkAnswer.ends (answer : SinkAnswer) : Bool := answer.failure.isSome || answer.cancels

/-- What the sink answers to the result of a record that is number `k` of its run. -/
def answerTo (validator : Validator) (sink : ResultSink) (k : Nat) (record : CanonicalRecord) :
    SinkAnswer :=
  sink k (validator k record)

/-- No answer to these records, the first of a run, ends it. -/
def GoesOn (validator : Validator) (sink : ResultSink) (records : List CanonicalRecord) : Prop :=
  ∀ answer ∈ records.mapIdx (answerTo validator sink), answer.ends = false

/-- The first answer that ends a run over some records is the one to `record`. -/
structure StopsAt (validator : Validator) (sink : ResultSink)
    (records done : List CanonicalRecord) (record : CanonicalRecord)
    (later : List CanonicalRecord) : Prop where
  split : records = done ++ record :: later
  before : GoesOn validator sink done
  ends : (answerTo validator sink done.length record).ends = true

/-- The state of a run that started with a session and has processed records. -/
def RunState.past (validator : Validator) (sink : ResultSink) (session : RunSession)
    (records : List CanonicalRecord) : RunState where
  session := (records.mapIdx validator).foldl RunSession.record session
  validated := records
  streamed := records.mapIdx validator
  cancelled := (records.mapIdx (answerTo validator sink)).any SinkAnswer.cancels

variable {validator : Validator} {sink : ResultSink} {session : RunSession}
  {records done batch front later : List CanonicalRecord} {record : CanonicalRecord}
  {failure : ConsumerFailure} {s next : RunState}

theorem goesOn_nil : GoesOn validator sink [] := by
  intro answer mem
  cases mem

theorem goesOn_snoc_iff : GoesOn validator sink (done ++ [record]) ↔
    GoesOn validator sink done ∧ (answerTo validator sink done.length record).ends = false := by
  unfold GoesOn
  rw [List.mapIdx_concat]
  constructor
  · intro all
    refine ⟨fun answer mem => all answer (List.mem_append_left _ mem), all _ ?_⟩
    exact List.mem_append_right _ List.mem_cons_self
  · rintro ⟨before, last⟩ answer mem
    rcases List.mem_append.mp mem with old | new
    · exact before answer old
    · rwa [List.mem_singleton.mp new]

theorem GoesOn.left (goesOn : GoesOn validator sink (done ++ batch)) :
    GoesOn validator sink done := by
  intro answer mem
  apply goesOn
  rw [List.mapIdx_append]
  exact List.mem_append_left _ mem

theorem GoesOn.ends_inside (goesOn : GoesOn validator sink (done ++ record :: later)) :
    (answerTo validator sink done.length record).ends = false := by
  have whole : done ++ record :: later = done ++ [record] ++ later := by simp
  rw [whole] at goesOn
  exact (goesOn_snoc_iff.mp goesOn.left).2

theorem GoesOn.not_stopsAt (goesOn : GoesOn validator sink records) :
    ¬ StopsAt validator sink records done record later := by
  rintro ⟨rfl, -, ends⟩
  rw [goesOn.ends_inside] at ends
  cases ends

/-- A run over more records goes on to their end, or there is a first answer that ends it. -/
theorem goesOn_or_stops (before : GoesOn validator sink done) (batch : List CanonicalRecord) :
    GoesOn validator sink (done ++ batch) ∨ ∃ front record later,
      batch = front ++ record :: later ∧
        StopsAt validator sink (done ++ batch) (done ++ front) record later := by
  induction batch generalizing done with
  | nil =>
    rw [List.append_nil]
    exact Or.inl before
  | cons record rest ih =>
    by_cases ends : (answerTo validator sink done.length record).ends = true
    · have stop : StopsAt validator sink (done ++ record :: rest) done record rest :=
        ⟨rfl, before, ends⟩
      refine Or.inr ⟨[], record, rest, rfl, ?_⟩
      rwa [List.append_nil]
    · have further := goesOn_snoc_iff.mpr ⟨before, Bool.eq_false_iff.mpr ends⟩
      have whole : done ++ record :: rest = done ++ [record] ++ rest := by simp
      rw [whole]
      rcases ih further with all | ⟨front, stop, later, rfl, stops⟩
      · exact Or.inl all
      · refine Or.inr ⟨record :: front, stop, later, rfl, ?_⟩
        simpa using stops

theorem StopsAt.unique {done' later' : List CanonicalRecord} {record' : CanonicalRecord}
    (here : StopsAt validator sink records done record later)
    (there : StopsAt validator sink records done' record' later') :
    done = done' ∧ record = record' ∧ later = later' := by
  have same := here.split.symm.trans there.split
  rcases List.append_eq_append_iff.mp same with ⟨between, whole, tail⟩ | ⟨between, whole, tail⟩
  · cases between with
    | nil =>
      obtain ⟨rfl, rfl⟩ := List.cons.inj tail
      exact ⟨by simp [whole], rfl, rfl⟩
    | cons first more =>
      obtain ⟨rfl, -⟩ := List.cons.inj tail
      have inside := there.before
      rw [whole] at inside
      exact absurd (inside.ends_inside.symm.trans here.ends) (by decide)
  · cases between with
    | nil =>
      obtain ⟨rfl, rfl⟩ := List.cons.inj tail
      exact ⟨by simp [whole], rfl, rfl⟩
    | cons first more =>
      obtain ⟨rfl, -⟩ := List.cons.inj tail
      have inside := here.before
      rw [whole] at inside
      exact absurd (inside.ends_inside.symm.trans there.ends) (by decide)

namespace RunState

theorem past_nil : past validator sink session [] = { session } := rfl

theorem past_running (session : RunSession) (goesOn : GoesOn validator sink records) :
    (past validator sink session records).cancelled = false := by
  refine List.any_eq_false.mpr fun answer mem cancels => ?_
  have ends := goesOn answer mem
  rw [SinkAnswer.ends, cancels, Bool.or_true] at ends
  cases ends

theorem past_cancelled (before : GoesOn validator sink done) :
    (past validator sink session (done ++ [record])).cancelled =
      (answerTo validator sink done.length record).cancels := by
  have running : (done.mapIdx (answerTo validator sink)).any SinkAnswer.cancels = false :=
    past_running session before
  change ((done ++ [record]).mapIdx (answerTo validator sink)).any SinkAnswer.cancels = _
  rw [List.mapIdx_concat, List.any_append, running, Bool.false_or, List.any_cons, List.any_nil,
    Bool.or_false]

theorem process_past :
    (past validator sink session done).process validator sink record =
      (past validator sink session (done ++ [record]),
        (answerTo validator sink done.length record).failure) := by
  simp only [process, past, answerTo, List.length_mapIdx, List.mapIdx_concat, List.foldl_append,
    List.foldl_cons, List.foldl_nil, List.any_append, List.any_cons, List.any_nil, Bool.or_false]

theorem handle_append (taken : s.handle validator sink front = (next, .ok ())) :
    s.handle validator sink (front ++ later) = next.handle validator sink later := by
  induction front generalizing s with
  | nil =>
    rw [handle] at taken
    cases taken
    rfl
  | cons record rest ih =>
    rw [handle] at taken
    rw [List.cons_append, handle]
    by_cases cancelled : s.cancelled = true
    · rw [if_pos cancelled] at taken
      cases taken
    · rw [if_neg cancelled] at taken ⊢
      split at taken
      · exact ih taken
      · cases taken

theorem handle_past (session : RunSession) (goesOn : GoesOn validator sink (done ++ batch)) :
    (past validator sink session done).handle validator sink batch =
      (past validator sink session (done ++ batch), .ok ()) := by
  induction batch generalizing done with
  | nil => rw [handle, List.append_nil]
  | cons record rest ih =>
    have whole : done ++ record :: rest = done ++ [record] ++ rest := by simp
    rw [whole] at goesOn ⊢
    obtain ⟨before, goesOnHere⟩ := goesOn_snoc_iff.mp goesOn.left
    have none : (answerTo validator sink done.length record).failure = none := by
      rw [SinkAnswer.ends, Bool.or_eq_false_iff] at goesOnHere
      exact Option.isNone_iff_eq_none.mp (by simpa using goesOnHere.1)
    rw [handle, past_running session before, process_past, none]
    exact ih goesOn

theorem handle_stop (session : RunSession)
    (stops : StopsAt validator sink (done ++ batch) (done ++ front) record later) :
    (past validator sink session done).handle validator sink batch =
      (past validator sink session (done ++ front ++ [record]),
        match (answerTo validator sink (done ++ front).length record).failure with
        | some failure => .error failure
        | none => if later = [] then .ok () else .error cancelledFailure) := by
  have inBatch : batch = front ++ record :: later := by
    have split := stops.split
    rw [List.append_assoc] at split
    exact List.append_cancel_left split
  rw [inBatch, handle_append (handle_past session stops.before), handle,
    past_running session stops.before, process_past]
  cases failed : (answerTo validator sink (done ++ front).length record).failure with
  | some failure => rfl
  | none =>
    have cancels : (past validator sink session (done ++ front ++ [record])).cancelled = true := by
      have ends := stops.ends
      rw [SinkAnswer.ends, failed] at ends
      rw [past_cancelled stops.before]
      exact ends
    cases later with
    | nil => rfl
    | cons following rest =>
      change handle validator sink _ (following :: rest) = _
      rw [handle, if_pos cancels]
      rfl

end RunState

end Geoflow
