import Geoflow.Extract.Stream

set_option autoImplicit false

namespace Geoflow

/-- The rows before the first error. -/
def leadingRows : List StreamItem → List Row
  | .ok row :: rest => row :: leadingRows rest
  | _ => []

def firstError? : List StreamItem → Option ExtractError
  | .ok _ :: rest => firstError? rest
  | .error e :: _ => some e
  | [] => none

def leadingRecords (items : List StreamItem) : List CanonicalRecord :=
  (leadingRows items).map Row.toCanonical

@[simp] theorem leadingRecords_nil : leadingRecords [] = [] := rfl

@[simp] theorem leadingRecords_error (e : ExtractError) (rest : List StreamItem) :
    leadingRecords (.error e :: rest) = [] := rfl

theorem leadingRows_append (rows : List Row) (rest : List StreamItem) :
    leadingRows (rows.map .ok ++ rest) = rows ++ leadingRows rest := by
  induction rows with
  | nil => rfl
  | cons row rows ih => rw [List.map_cons, List.cons_append, leadingRows, ih, List.cons_append]

theorem leadingRecords_append (rows : List Row) (rest : List StreamItem) :
    leadingRecords (rows.map .ok ++ rest) = rows.map Row.toCanonical ++ leadingRecords rest := by
  rw [leadingRecords, leadingRows_append, List.map_append]
  rfl

theorem firstError?_append (rows : List Row) (rest : List StreamItem) :
    firstError? (rows.map .ok ++ rest) = firstError? rest := by
  induction rows with
  | nil => rfl
  | cons row rows ih => rw [List.map_cons, List.cons_append, firstError?, ih]

/-- Batches as they are handed over when all that was pulled before them, `k` items, and then one
row for each of their records: each with the number of items pulled by then. -/
def stamped (k : Nat) : List (List CanonicalRecord) → List Delivery
  | [] => []
  | batch :: rest => ⟨k + batch.length, batch⟩ :: stamped (k + batch.length) rest

theorem stamped_append (k : Nat) (before after : List (List CanonicalRecord)) :
    stamped k (before ++ after) =
      stamped k before ++ stamped (k + before.flatten.length) after := by
  induction before generalizing k with
  | nil => rfl
  | cons batch rest ih =>
    rw [List.cons_append, stamped, ih, stamped, List.cons_append, List.flatten_cons,
      List.length_append, Nat.add_assoc]

theorem map_batch_stamped (k : Nat) (batches : List (List CanonicalRecord)) :
    (stamped k batches).map Delivery.batch = batches := by
  induction batches generalizing k with
  | nil => rfl
  | cons batch rest ih => rw [stamped, List.map_cons, ih]

theorem length_stamped (k : Nat) (batches : List (List CanonicalRecord)) :
    (stamped k batches).length = batches.length := by
  rw [← List.length_map, map_batch_stamped]

theorem split_of_stamped {k : Nat} {batches : List (List CanonicalRecord)}
    {earlier later : List Delivery} {d : Delivery}
    (split : stamped k batches = earlier ++ d :: later) :
    batches = earlier.map Delivery.batch ++ d.batch :: later.map Delivery.batch ∧
      d.pulled = k + (earlier.map Delivery.batch ++ [d.batch]).flatten.length := by
  constructor
  · rw [← map_batch_stamped k batches, split, List.map_append, List.map_cons]
  · induction earlier generalizing k batches with
    | nil =>
      cases batches with
      | nil => cases split
      | cons batch rest =>
        obtain ⟨rfl, -⟩ := List.cons.inj split
        simp
    | cons first others ih =>
      cases batches with
      | nil => cases split
      | cons batch rest =>
        obtain ⟨rfl, more⟩ := List.cons.inj split
        rw [ih more]
        simp only [List.map_cons, List.cons_append, List.flatten_cons, List.length_append]
        omega

section

variable {σ : Type} {c : Consumer σ} {n : Nat} {capacity : Capacity} {state next : σ}
  {items rest : List StreamItem}
  {taken : List Row} {row : Row} {batches before later : List (List CanonicalRecord)}
  {batch waiting : List CanonicalRecord} {p : Progress σ} {failure : ConsumerFailure}
  {e : ExtractError}

namespace Consumer

def after (c : Consumer σ) (state : σ) (batches : List (List CanonicalRecord)) : σ :=
  batches.foldl (fun s batch => (c.handle s batch).1) state

/-- What ends a stream at a call: a failure, or a cancellation if the batch was full. -/
def stop? (c : Consumer σ) (n : Nat) (state : σ) (batch : List CanonicalRecord) :
    Option ExtractError :=
  match c.handle state batch with
  | (_, .error failure) => some (.consumer failure)
  | (next, .ok ()) => if n ≤ batch.length ∧ c.isCancelled next = true then some .cancelled else none

def Calm (c : Consumer σ) (n : Nat) : σ → List (List CanonicalRecord) → Prop
  | _, [] => True
  | state, batch :: rest => c.stop? n state batch = none ∧ c.Calm n (c.handle state batch).1 rest

theorem after_snoc :
    c.after state (before ++ [batch]) = (c.handle (c.after state before) batch).1 := by
  rw [after, List.foldl_append]
  rfl

theorem calm_append_iff :
    c.Calm n state (before ++ later) ↔
      c.Calm n state before ∧ c.Calm n (c.after state before) later := by
  induction before generalizing state with
  | nil => simp [Calm, after]
  | cons batch rest ih =>
    rw [List.cons_append, Calm, ih, Calm, and_assoc]
    rfl

theorem calm_of_forall
    (goesOn : ∀ before batch later, batches = before ++ batch :: later →
      c.stop? n (c.after state before) batch = none) : c.Calm n state batches := by
  induction batches generalizing state with
  | nil => trivial
  | cons first rest ih =>
    refine ⟨goesOn [] first rest rfl, ih ?_⟩
    intro before batch later split
    exact goesOn (first :: before) batch later (by rw [split]; rfl)

theorem Calm.snoc (calm : c.Calm n state before)
    (goesOn : c.stop? n (c.after state before) batch = none) : c.Calm n state (before ++ [batch]) :=
  calm_append_iff.mpr ⟨calm, goesOn, trivial⟩

theorem stop?_eq_none_iff :
    c.stop? n state batch = none ↔ (c.handle state batch).2 = .ok () ∧
      (n ≤ batch.length → c.isCancelled (c.handle state batch).1 = false) := by
  unfold stop?
  split <;> simp_all

theorem stop?_of_failed (failed : (c.handle state batch).2 = .error failure) :
    c.stop? n state batch = some (.consumer failure) := by
  unfold stop?
  split <;> simp_all

theorem stop?_of_cancelled (full : n ≤ batch.length) (taken : (c.handle state batch).2 = .ok ())
    (cancelled : c.isCancelled (c.handle state batch).1 = true) :
    c.stop? n state batch = some .cancelled := by
  unfold stop?
  split <;> simp_all

end Consumer

namespace Progress

@[simp] theorem deliver_state : (p.deliver c batch).1.state = (c.handle p.state batch).1 := by
  unfold deliver
  dsimp only
  split <;> rfl

@[simp] theorem deliver_pulled : (p.deliver c batch).1.pulled = p.pulled := by
  unfold deliver
  dsimp only
  split <;> rfl

@[simp] theorem deliver_deliveries :
    (p.deliver c batch).1.deliveries = p.deliveries ++ [⟨p.pulled, batch⟩] := by
  unfold deliver
  dsimp only
  split <;> rfl

theorem deliver_stats (handled : c.handle p.state batch = (next, .ok ())) :
    (p.deliver c batch).1.stats = { p.stats with batches := p.stats.batches + 1 } := by
  rw [deliver, handled]

@[simp] theorem pull_countRow_state : p.pull.countRow.state = p.state := rfl

@[simp] theorem pull_countRow_pulled : p.pull.countRow.pulled = p.pulled + 1 := rfl

@[simp] theorem pull_countRow_stats :
    p.pull.countRow.stats = { p.stats with rows := p.stats.rows + 1 } := rfl

@[simp] theorem pull_countRow_deliveries : p.pull.countRow.deliveries = p.deliveries := rfl

end Progress

theorem streamFrom_of_isCancelled (cancelled : c.isCancelled p.state = true) :
    streamFrom c capacity items waiting p = ⟨p, .error .cancelled⟩ := by
  unfold streamFrom
  dsimp only
  rw [if_pos cancelled]

section Running

variable (running : c.isCancelled p.state = false)
include running

theorem streamFrom_end : streamFrom c capacity [] [] p = ⟨p, .ok p.stats⟩ := by
  unfold streamFrom
  simp [running]

theorem streamFrom_flush_taken (left : waiting ≠ [])
    (handled : c.handle p.state waiting = (next, .ok ())) :
    streamFrom c capacity [] waiting p =
      ⟨(p.deliver c waiting).1, .ok (p.deliver c waiting).1.stats⟩ := by
  unfold streamFrom
  simp [running, left, Progress.deliver, handled]

theorem streamFrom_flush_failed (left : waiting ≠ [])
    (handled : c.handle p.state waiting = (next, .error failure)) :
    streamFrom c capacity [] waiting p = ⟨(p.deliver c waiting).1, .error (.consumer failure)⟩ := by
  unfold streamFrom
  simp [running, left, Progress.deliver, handled]

theorem streamFrom_error :
    streamFrom c capacity (.error e :: rest) waiting p = ⟨p.pull, .error e⟩ := by
  unfold streamFrom
  simp [running]

theorem streamFrom_keep (room : ¬ capacity.records ≤ (waiting ++ [row.toCanonical]).length) :
    streamFrom c capacity (.ok row :: rest) waiting p =
      streamFrom c capacity rest (waiting ++ [row.toCanonical]) p.pull.countRow := by
  rw [streamFrom.eq_def]
  simp only [running, Bool.false_eq_true, if_false, room]

variable (full : capacity.records ≤ (waiting ++ [row.toCanonical]).length)
include full

theorem streamFrom_full_taken
    (handled : c.handle p.state (waiting ++ [row.toCanonical]) = (next, .ok ())) :
    streamFrom c capacity (.ok row :: rest) waiting p =
      streamFrom c capacity rest []
        (p.pull.countRow.deliver c (waiting ++ [row.toCanonical])).1 := by
  rw [streamFrom.eq_def]
  simp only [running, Bool.false_eq_true, if_false, full, if_true, Progress.deliver,
    Progress.pull_countRow_state, handled]

theorem streamFrom_full_failed
    (handled : c.handle p.state (waiting ++ [row.toCanonical]) = (next, .error failure)) :
    streamFrom c capacity (.ok row :: rest) waiting p =
      ⟨(p.pull.countRow.deliver c (waiting ++ [row.toCanonical])).1,
        .error (.consumer failure)⟩ := by
  rw [streamFrom.eq_def]
  simp only [running, Bool.false_eq_true, if_false, full, if_true, Progress.deliver,
    Progress.pull_countRow_state, handled]

end Running

end

end Geoflow
