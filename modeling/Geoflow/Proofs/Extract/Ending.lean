import Geoflow.Proofs.Extract.Buffer
import Geoflow.Proofs.Extract.Chunks
import Geoflow.Proofs.Extract.Turn

set_option autoImplicit false

namespace Geoflow

variable {σ : Type} {c : Consumer σ} {n : Nat} {capacity : Capacity} {state next : σ}
  {items rest : List StreamItem}
  {taken : List Row} {row : Row} {batches before later : List (List CanonicalRecord)}
  {batch waiting : List CanonicalRecord} {p : Progress σ} {e : ExtractError}

/-- The ways in which a stream ends: the batches handed over, the items pulled, and the outcome. -/
inductive Ending (c : Consumer σ) (n : Nat) (state : σ) (items : List StreamItem) :
    List (List CanonicalRecord) → Nat → Except ExtractError ExtractStats → Prop
  | beforehand (cancelled : c.isCancelled state = true) :
      Ending c n state items [] 0 (.error .cancelled)
  | stopped {before : List (List CanonicalRecord)} {batch : List CanonicalRecord}
      {e : ExtractError} (calm : c.Calm n state before)
      (stop : c.stop? n (c.after state before) batch = some e)
      (full : ∀ block ∈ before, block.length = n)
      (handed : before ++ [batch] <+: chunks n (leadingRecords items))
      (faultless : batch.length < n → firstError? items = none) :
      Ending c n state items (before ++ [batch]) (before ++ [batch]).flatten.length (.error e)
  | faulted {batches : List (List CanonicalRecord)} {waiting : List CanonicalRecord}
      {e : ExtractError} (calm : c.Calm n state batches) (fault : firstError? items = some e)
      (full : ∀ block ∈ batches, block.length = n) (short : waiting.length < n)
      (records : leadingRecords items = batches.flatten ++ waiting) :
      Ending c n state items batches ((leadingRecords items).length + 1) (.error e)
  | finished {batches : List (List CanonicalRecord)} (calm : c.Calm n state batches)
      (faultless : firstError? items = none) (handed : chunks n (leadingRecords items) = batches) :
      Ending c n state items batches (leadingRecords items).length
        (.ok ⟨.ofNat (leadingRecords items).length, .ofNat batches.length⟩)

/-- How a whole stream went. -/
def StreamRun.Ended (c : Consumer σ) (n : Nat) (state : σ) (items : List StreamItem)
    (run : StreamRun σ) : Prop :=
  ∃ batches, run.progress.deliveries = stamped 0 batches ∧
    Ending c n state items batches run.progress.pulled run.outcome

/-- What holds at each turn of the loop. -/
structure Reached (c : Consumer σ) (n : Nat) (state : σ) (taken : List Row)
    (batches : List (List CanonicalRecord)) (waiting : List CanonicalRecord) (p : Progress σ) :
    Prop where
  records : taken.map Row.toCanonical = batches.flatten ++ waiting
  full : ∀ block ∈ batches, block.length = n
  short : waiting.length < n
  calm : c.Calm n state batches
  state : p.state = c.after state batches
  running : c.isCancelled p.state = false
  pulled : p.pulled = taken.length
  stats : p.stats = ⟨.ofNat taken.length, .ofNat batches.length⟩
  deliveries : p.deliveries = stamped 0 batches

namespace Reached

theorem start (positive : 0 < n) (running : c.isCancelled state = false) :
    Reached c n state [] [] [] { state } where
  records := rfl
  full := by simp
  short := positive
  calm := trivial
  state := rfl
  running := running
  pulled := rfl
  stats := rfl
  deliveries := rfl

section

variable (reached : Reached c n state taken batches waiting p)
include reached

theorem length_taken : taken.length = batches.flatten.length + waiting.length := by
  have lengths := congrArg List.length reached.records
  rwa [List.length_map, List.length_append] at lengths

/-- With one more row all that was pulled has been handed over or makes the next batch. -/
theorem pulled_row (row : Row) : p.pull.countRow.pulled =
    (batches ++ [waiting ++ [row.toCanonical]]).flatten.length := by
  simp [reached.pulled, reached.length_taken, Nat.add_assoc]

theorem deliveries_snoc {q : Progress σ} (same : q.deliveries = p.deliveries)
    (pulled : q.pulled = (batches ++ [batch]).flatten.length) :
    (q.deliver c batch).1.deliveries = stamped 0 (batches ++ [batch]) := by
  rw [Progress.deliver_deliveries, same, reached.deliveries, stamped_append, pulled]
  simp [stamped]

theorem keep (room : waiting.length + 1 < n) :
    Reached c n state (taken ++ [row]) batches (waiting ++ [row.toCanonical])
      p.pull.countRow where
  records := by
    rw [List.map_append, reached.records, List.append_assoc]
    rfl
  full := reached.full
  short := by simpa using room
  calm := reached.calm
  state := reached.state
  running := reached.running
  pulled := by simp [Progress.pull, Progress.countRow, reached.pulled]
  stats := by simp [Progress.pull, Progress.countRow, reached.stats]
  deliveries := reached.deliveries

theorem take (filled : waiting.length + 1 = n)
    (handled : c.handle p.state (waiting ++ [row.toCanonical]) = (next, .ok ()))
    (running : c.isCancelled next = false) :
    Reached c n state (taken ++ [row]) (batches ++ [waiting ++ [row.toCanonical]]) []
      (p.pull.countRow.deliver c (waiting ++ [row.toCanonical])).1 where
  records := by
    rw [List.map_append, reached.records, List.flatten_append]
    simp
  full := by
    intro block mem
    rcases List.mem_append.mp mem with old | new
    · exact reached.full block old
    · rw [List.mem_singleton.mp new, List.length_append, List.length_singleton, filled]
  short := by
    rw [List.length_nil]
    omega
  calm := by
    refine reached.calm.snoc ?_
    rw [← reached.state, Consumer.stop?_eq_none_iff, handled]
    exact ⟨rfl, fun _ => running⟩
  state := by
    rw [Progress.deliver_state, Progress.pull_countRow_state, Consumer.after_snoc, reached.state]
  running := by
    rw [Progress.deliver_state, Progress.pull_countRow_state, handled]
    exact running
  pulled := by simp [reached.pulled]
  stats := by
    rw [Progress.deliver_stats (p := p.pull.countRow) handled]
    simp [reached.stats]
  deliveries := reached.deliveries_snoc Progress.pull_countRow_deliveries (reached.pulled_row row)

/-- The stream ends at a call, and the batch of that call is the last one. -/
theorem ended_of_stop {q : Progress σ} (same : q.deliveries = p.deliveries)
    (pulled : q.pulled = (batches ++ [batch]).flatten.length)
    (stop : c.stop? n p.state batch = some e)
    (handed : batches ++ [batch] <+: chunks n (leadingRecords items))
    (faultless : batch.length < n → firstError? items = none) :
    StreamRun.Ended c n state items ⟨(q.deliver c batch).1, .error e⟩ := by
  rw [reached.state] at stop
  have ending := Ending.stopped reached.calm stop reached.full handed faultless
  refine ⟨batches ++ [batch], reached.deliveries_snoc same pulled, ?_⟩
  rwa [Progress.deliver_pulled, pulled]

theorem leadingRecords_eq (split : items = taken.map .ok ++ rest) :
    leadingRecords items = batches.flatten ++ (waiting ++ leadingRecords rest) := by
  rw [split, leadingRecords_append, reached.records, List.append_assoc]

end

section

variable (reached : Reached c capacity.records state taken batches waiting p)
include reached

/-- The stream ends here if there are no more items. -/
theorem ended_of_nil (split : items = taken.map .ok) :
    (streamFrom c capacity [] waiting p).Ended c capacity.records state items := by
  have positive : 0 < capacity.records := capacity.positive
  have total := reached.length_taken
  have whole : items = taken.map .ok ++ [] := by rw [split, List.append_nil]
  have faultless : firstError? items = none := by
    rw [whole, firstError?_append]
    rfl
  have records : leadingRecords items = batches.flatten ++ waiting := by
    rw [reached.leadingRecords_eq whole, leadingRecords_nil, List.append_nil]
  have length : (leadingRecords items).length = taken.length := by
    rw [records, List.length_append, total]
  by_cases left : waiting = []
  · have handed : chunks capacity.records (leadingRecords items) = batches := by
      rw [records, left, chunks_blocks positive reached.full, chunks_nil, List.append_nil]
    have ending := Ending.finished reached.calm faultless handed
    rw [length, ← reached.stats, ← reached.pulled] at ending
    rw [left, streamFrom_end reached.running]
    exact ⟨batches, reached.deliveries, ending⟩
  · have handed : chunks capacity.records (leadingRecords items) = batches ++ [waiting] := by
      rw [records, chunks_blocks positive reached.full,
        chunks_short left (Nat.le_of_lt reached.short)]
    have pulled : p.pulled = (batches ++ [waiting]).flatten.length := by
      simp [reached.pulled, total]
    rcases handled : c.handle p.state waiting with ⟨next, failure | ⟨⟩⟩
    · have stop := Consumer.stop?_of_failed (n := capacity.records) (congrArg Prod.snd handled)
      have inPlan : batches ++ [waiting] <+: chunks capacity.records (leadingRecords items) :=
        handed ▸ List.prefix_refl _
      rw [streamFrom_flush_failed reached.running left handled]
      exact reached.ended_of_stop rfl pulled stop inPlan fun _ => faultless
    · have goesOn : c.stop? capacity.records p.state waiting = none := by
        rw [Consumer.stop?_eq_none_iff, handled]
        exact ⟨rfl, fun full => absurd full (Nat.not_le_of_lt reached.short)⟩
      rw [reached.state] at goesOn
      have ending := Ending.finished (reached.calm.snoc goesOn) faultless handed
      rw [streamFrom_flush_taken reached.running left handled]
      refine ⟨batches ++ [waiting], reached.deliveries_snoc rfl pulled, ?_⟩
      have stats := Progress.deliver_stats handled
      rw [reached.stats] at stats
      rw [length, ← reached.pulled] at ending
      simpa [stats, reached.pulled] using ending

theorem ended_of_error (split : items = taken.map .ok ++ .error e :: rest) :
    (streamFrom c capacity (.error e :: rest) waiting p).Ended c capacity.records state items := by
  have fault : firstError? items = some e := by
    rw [split, firstError?_append]
    rfl
  have records : leadingRecords items = batches.flatten ++ waiting := by
    rw [reached.leadingRecords_eq split, leadingRecords_error, List.append_nil]
  have ending := Ending.faulted reached.calm fault reached.full reached.short records
  rw [records, List.length_append, ← reached.length_taken, ← reached.pulled] at ending
  rw [streamFrom_error reached.running]
  exact ⟨batches, reached.deliveries, ending⟩

/-- A row that fills the batch ends the stream, or the batch is taken and the loop turns again. -/
theorem fill (filled : waiting.length + 1 = capacity.records)
    (split : items = taken.map .ok ++ .ok row :: rest)
    (again : ∀ {q : Progress σ},
      Reached c capacity.records state (taken ++ [row])
          (batches ++ [waiting ++ [row.toCanonical]]) [] q →
        (streamFrom c capacity rest [] q).Ended c capacity.records state items) :
    (streamFrom c capacity (.ok row :: rest) waiting p).Ended c capacity.records state items := by
  have positive : 0 < capacity.records := capacity.positive
  have full : (waiting ++ [row.toCanonical]).length = capacity.records := by
    rw [List.length_append, List.length_singleton, filled]
  have records : leadingRecords items =
      batches.flatten ++ ((waiting ++ [row.toCanonical]) ++ leadingRecords rest) := by
    rw [reached.leadingRecords_eq split, List.append_assoc]
    rfl
  have inPlan : batches ++ [waiting ++ [row.toCanonical]] <+:
      chunks capacity.records (leadingRecords items) := by
    rw [records, chunks_blocks positive reached.full, chunks_block positive full]
    exact ⟨chunks capacity.records (leadingRecords rest), by simp⟩
  have faultless :
      (waiting ++ [row.toCanonical]).length < capacity.records → firstError? items = none :=
    fun short => absurd full (Nat.ne_of_lt short)
  have pulled := reached.pulled_row row
  rcases handled : c.handle p.state (waiting ++ [row.toCanonical]) with ⟨next, failure | ⟨⟩⟩
  · have stop := Consumer.stop?_of_failed (n := capacity.records) (congrArg Prod.snd handled)
    rw [streamFrom_full_failed reached.running (Nat.le_of_eq full.symm) handled]
    exact reached.ended_of_stop Progress.pull_countRow_deliveries pulled stop inPlan faultless
  · rw [streamFrom_full_taken reached.running (Nat.le_of_eq full.symm) handled]
    by_cases cancelled : c.isCancelled next = true
    · have stop :
          c.stop? capacity.records p.state (waiting ++ [row.toCanonical]) = some .cancelled :=
        Consumer.stop?_of_cancelled (Nat.le_of_eq full.symm) (by rw [handled]) (by rwa [handled])
      rw [streamFrom_of_isCancelled (by
        rwa [Progress.deliver_state, Progress.pull_countRow_state, handled])]
      exact reached.ended_of_stop Progress.pull_countRow_deliveries pulled stop inPlan faultless
    · exact again (reached.take filled handled (Bool.eq_false_iff.mpr cancelled))

end

end Reached

/-- From each turn of the loop on, the stream comes to one of its ends. -/
theorem Reached.ended (reached : Reached c capacity.records state taken batches waiting p)
    (split : items = taken.map .ok ++ rest) :
    (streamFrom c capacity rest waiting p).Ended c capacity.records state items := by
  induction rest generalizing taken batches waiting p with
  | nil => exact reached.ended_of_nil (by rw [split, List.append_nil])
  | cons item rest ih =>
    cases item with
    | error e => exact reached.ended_of_error split
    | ok row =>
      have shifted : items = (taken ++ [row]).map .ok ++ rest := by simp [split]
      have short := reached.short
      by_cases filled : waiting.length + 1 = capacity.records
      · exact reached.fill filled split fun further => ih further shifted
      · have room : waiting.length + 1 < capacity.records := by omega
        rw [streamFrom_keep reached.running (by simpa using room)]
        exact ih (reached.keep room) shifted

def Progress.UpToDate (c : Consumer σ) (state : σ) (p : Progress σ) : Prop :=
  p.state = c.after state (p.deliveries.map Delivery.batch)

theorem Progress.UpToDate.deliver {q : Progress σ} {answer : Except ExtractError Unit}
    (upToDate : p.UpToDate c state) (handed : p.deliver c batch = (q, answer)) :
    q.UpToDate c state := by
  have is : q = (p.deliver c batch).1 := (congrArg Prod.fst handed).symm
  rw [UpToDate, is, deliver_state, deliver_deliveries, List.map_append, upToDate]
  exact Consumer.after_snoc.symm

theorem Progress.UpToDate.pull_countRow (upToDate : p.UpToDate c state) :
    p.pull.countRow.UpToDate c state :=
  upToDate

theorem streamFrom_upToDate (upToDate : p.UpToDate c state) :
    (streamFrom c capacity items waiting p).progress.UpToDate c state := by
  fun_induction streamFrom c capacity items waiting p with
  | case1 => exact upToDate
  | case2 => exact upToDate
  | case3 _ _ _ _ _ handed => exact upToDate.deliver handed
  | case4 _ _ _ _ _ _ handed => exact upToDate.deliver handed
  | case5 => exact upToDate
  | case6 _ _ _ _ _ _ _ _ _ handed ih => exact ih (upToDate.pull_countRow.deliver handed)
  | case7 _ _ _ _ _ _ _ _ _ _ handed => exact upToDate.pull_countRow.deliver handed
  | case8 _ _ _ _ _ _ _ _ ih => exact ih upToDate

/-- What is known of a whole stream. -/
structure StreamRun.Followed (c : Consumer σ) (n : Nat) (state : σ) (items : List StreamItem)
    (run : StreamRun σ) : Prop where
  ended : run.Ended c n state items
  upToDate : run.progress.UpToDate c state
  beforehand : c.isCancelled state = true → run = ⟨{ state }, .error .cancelled⟩

theorem streamFrom_followed (c : Consumer σ) (capacity : Capacity) (state : σ)
    (items : List StreamItem) :
    (streamFrom c capacity items [] { state }).Followed c capacity.records state items := by
  have upToDate : (streamFrom c capacity items [] { state }).progress.UpToDate c state :=
    streamFrom_upToDate rfl
  by_cases cancelled : c.isCancelled state = true
  · have stopped : streamFrom c capacity items [] { state } = ⟨{ state }, .error .cancelled⟩ :=
      streamFrom_of_isCancelled cancelled
    exact ⟨stopped ▸ ⟨[], rfl, .beforehand cancelled⟩, upToDate, fun _ => stopped⟩
  · have reached := Reached.start capacity.positive (Bool.eq_false_iff.mpr cancelled)
    exact ⟨reached.ended rfl, upToDate, fun is => absurd is cancelled⟩

theorem streamBatches_followed (c : Consumer σ) (size : Nat) (state : σ)
    (items : List StreamItem) :
    Buffered (size < 2 ^ 57) (fun run => run.Followed c (max size 1) state items)
      (streamBatches c size state items) := by
  refine .of_cases (fun small => ?_) fun oversized =>
    streamBatches_of_le c state items (Nat.le_of_not_lt oversized)
  obtain ⟨capacity, records, made⟩ := streamBatches_of_lt c state items small
  exact ⟨_, made, records ▸ streamFrom_followed c capacity state items⟩

namespace Ending

variable {pulled : Nat} {outcome : Except ExtractError ExtractStats}
  (ending : Ending c n state items batches pulled outcome)
include ending

theorem handed (positive : 0 < n) : batches <+: chunks n (leadingRecords items) := by
  cases ending with
  | beforehand => exact List.nil_prefix
  | stopped _ _ _ handed => exact handed
  | faulted _ _ full _ records =>
    rw [records, chunks_blocks positive full]
    exact List.prefix_append _ _
  | finished _ _ handed => exact handed ▸ List.prefix_refl _

theorem length_le (positive : 0 < n) : ∀ block ∈ batches, block.length ≤ n :=
  fun _ mem => (length_of_mem_chunks ((ending.handed positive).subset mem)).2

theorem pulled_eq (positive : 0 < n) (faultless : firstError? items = none) :
    pulled = batches.flatten.length := by
  cases ending with
  | beforehand => rfl
  | stopped => rfl
  | faulted _ fault =>
    rw [faultless] at fault
    cases fault
  | finished _ _ handed => rw [← handed, flatten_chunks positive]

/-- A call does not end the stream, or it is the last one and decides the outcome. -/
theorem call (split : batches = before ++ batch :: later) :
    c.stop? n (c.after state before) batch = none ∨
      later = [] ∧ pulled = batches.flatten.length ∧
        ∃ e, c.stop? n (c.after state before) batch = some e ∧ outcome = .error e := by
  have goesOn : ∀ {others : List (List CanonicalRecord)},
      c.Calm n state (before ++ batch :: others) → c.stop? n (c.after state before) batch = none :=
    fun calm => (Consumer.calm_append_iff.mp calm).2.1
  cases ending with
  | beforehand => simp at split
  | @stopped earlier last e calm stop full handed faultless =>
    rcases List.eq_nil_or_concat later with rfl | ⟨others, final, rfl⟩
    · obtain ⟨rfl, same⟩ := List.append_inj' split rfl
      cases same
      exact Or.inr ⟨rfl, rfl, e, stop, rfl⟩
    · rw [List.concat_eq_append, ← List.cons_append, ← List.append_assoc] at split
      obtain ⟨rfl, -⟩ := List.append_inj' split rfl
      exact Or.inl (goesOn calm)
  | faulted calm => exact Or.inl (goesOn (split ▸ calm))
  | finished calm => exact Or.inl (goesOn (split ▸ calm))

/-- A short batch is the last chunk of a stream without an error. -/
theorem of_short (positive : 0 < n) (split : batches = before ++ batch :: later)
    (short : batch.length < n) :
    firstError? items = none ∧ later = [] ∧ batches.flatten = leadingRecords items := by
  obtain ⟨others, whole⟩ := ending.handed positive
  have atEnd : later ++ others = [] := by
    by_contra inner
    rw [split, List.append_assoc, List.cons_append] at whole
    exact absurd (length_of_chunks_eq whole.symm inner) (Nat.ne_of_lt short)
  obtain ⟨rfl, rfl⟩ := List.append_eq_nil_iff.mp atEnd
  rw [List.append_nil] at whole
  refine ⟨?_, rfl, by rw [whole, flatten_chunks positive]⟩
  cases ending with
  | beforehand => simp at split
  | stopped _ _ _ _ faultless =>
    obtain ⟨-, same⟩ := List.append_inj' split rfl
    cases same
    exact faultless short
  | faulted _ _ full =>
    have length := full batch (by rw [split]; simp)
    exact absurd length (Nat.ne_of_lt short)
  | finished _ faultless => exact faultless

section Calm

variable (running : c.isCancelled state = false) (calm : c.Calm n state batches)
include running calm

/-- If neither the token nor a call ends the stream, an error among its items does. -/
theorem of_error (fault : firstError? items = some e) :
    outcome = .error e ∧ pulled = (leadingRecords items).length + 1 ∧
      batches = (chunks n (leadingRecords items)).filter (fun block => block.length == n) := by
  cases ending with
  | beforehand cancelled =>
    rw [running] at cancelled
    cases cancelled
  | stopped _ stop =>
    have goesOn := (Consumer.calm_append_iff.mp calm).2.1
    rw [stop] at goesOn
    cases goesOn
  | faulted _ found full short records =>
    cases fault.symm.trans found
    rw [records, filter_chunks full short]
    exact ⟨rfl, rfl, rfl⟩
  | finished _ faultless =>
    rw [faultless] at fault
    cases fault

/-- Without an error all chunks are handed over. -/
theorem of_no_error (faultless : firstError? items = none) :
    outcome = .ok ⟨.ofNat (leadingRecords items).length, .ofNat batches.length⟩ ∧
      pulled = (leadingRecords items).length ∧ batches = chunks n (leadingRecords items) := by
  cases ending with
  | beforehand cancelled =>
    rw [running] at cancelled
    cases cancelled
  | stopped _ stop =>
    have goesOn := (Consumer.calm_append_iff.mp calm).2.1
    rw [stop] at goesOn
    cases goesOn
  | faulted _ fault =>
    rw [faultless] at fault
    cases fault
  | finished _ _ handed => exact ⟨rfl, rfl, handed.symm⟩

end Calm

end Ending

end Geoflow
