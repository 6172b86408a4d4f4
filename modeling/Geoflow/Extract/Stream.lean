import Geoflow.Extract.Error
import Geoflow.Row.Basic

set_option autoImplicit false

namespace Geoflow

abbrev StreamItem := Except ExtractError Row

structure Consumer (σ : Type) where
  handle : σ → List CanonicalRecord → σ × Except ConsumerFailure Unit
  isCancelled : σ → Bool

structure Delivery where
  pulled : Nat
  batch : List CanonicalRecord
  deriving DecidableEq, Repr

structure ExtractStats where
  rows : UInt64 := 0
  batches : UInt64 := 0
  deriving DecidableEq, Repr

/-- What unwinds the caller too, where an error would be handed to it. -/
inductive Panic where
  | capacityOverflow
  deriving DecidableEq, Repr

/-- The octets of a record in a buffer: two texts of three words each, and two doubles. -/
def recordOctets : Nat := 64

/-- How many records a batch holds. A buffer has no more octets than a signed word counts, so there
is none for a larger batch; memory itself is taken to suffice. -/
structure Capacity where
  records : Nat
  positive : 0 < records
  fits : records * recordOctets < Nat.pow 2 63

def Capacity.ofSize (size : Nat) : Except Panic Capacity :=
  if fits : max size 1 * recordOctets < Nat.pow 2 63 then .ok ⟨max size 1, by omega, fits⟩
  else .error .capacityOverflow

structure Progress (σ : Type) where
  state : σ
  pulled : Nat := 0
  stats : ExtractStats := {}
  deliveries : List Delivery := []

structure StreamRun (σ : Type) where
  progress : Progress σ
  outcome : Except ExtractError ExtractStats

namespace Progress

variable {σ : Type}

def pull (p : Progress σ) : Progress σ := { p with pulled := p.pulled + 1 }

def countRow (p : Progress σ) : Progress σ :=
  { p with stats := { p.stats with rows := p.stats.rows + 1 } }

/-- Hands a batch over; only a batch that was taken is counted. -/
def deliver (c : Consumer σ) (p : Progress σ) (batch : List CanonicalRecord) :
    Progress σ × Except ExtractError Unit :=
  let (state, answer) := c.handle p.state batch
  let p := { p with state, deliveries := p.deliveries ++ [⟨p.pulled, batch⟩] }
  match answer with
  | .ok () => ({ p with stats := { p.stats with batches := p.stats.batches + 1 } }, .ok ())
  | .error failure => (p, .error (.consumer failure))

end Progress

/-- Streams items from a point on, with the records that wait to fill a batch. Nothing is read
ahead: a cancellation is noticed before the next item is pulled, also where there is none. The
buffers that follow the first have its capacity, so none of them is refused. -/
def streamFrom {σ : Type} (c : Consumer σ) (capacity : Capacity) :
    List StreamItem → List CanonicalRecord → Progress σ → StreamRun σ
  | items, waiting, p =>
    if c.isCancelled p.state then ⟨p, .error .cancelled⟩
    else match items with
      | [] =>
        if waiting.isEmpty then ⟨p, .ok p.stats⟩
        else match p.deliver c waiting with
          | (p, .ok ()) => ⟨p, .ok p.stats⟩
          | (p, .error e) => ⟨p, .error e⟩
      | .error e :: _ => ⟨p.pull, .error e⟩
      | .ok row :: rest =>
        let p := p.pull.countRow
        let batch := waiting ++ [row.toCanonical]
        if capacity.records ≤ batch.length then
          match p.deliver c batch with
          | (p, .ok ()) => streamFrom c capacity rest [] p
          | (p, .error e) => ⟨p, .error e⟩
        else streamFrom c capacity rest batch p

/-- Streams all items in batches of a size. The buffer comes first: without it nothing is pulled,
and a cancellation is not looked for. -/
def streamBatches {σ : Type} (c : Consumer σ) (size : Nat) (state : σ) (items : List StreamItem) :
    Except Panic (StreamRun σ) := do
  let capacity ← Capacity.ofSize size
  return streamFrom c capacity items [] { state }

structure Materialized where
  pulled : Nat
  rows : Except ExtractError (List Row)

/-- Reads at most `cap` rows and stops at the first error. -/
def materialize : Nat → List StreamItem → Materialized
  | 0, _ => ⟨0, .ok []⟩
  | _, [] => ⟨0, .ok []⟩
  | _ + 1, .error e :: _ => ⟨1, .error e⟩
  | cap + 1, .ok row :: rest =>
    let m := materialize cap rest
    ⟨m.pulled + 1, m.rows.map (row :: ·)⟩

end Geoflow
