import Geoflow.Proofs.Store.Transcript
import Geoflow.Schedule.JobKey

set_option autoImplicit false

namespace Geoflow

/-- The tables whose numbers are told to callers. -/
inductive NumberedTable where
  | sources
  | pipelines
  | syncs
  | sessions
  deriving DecidableEq, Repr

/-- The greatest number that a table has given out. -/
def Store.issued (s : Store) : NumberedTable → Nat
  | .sources => s.sources.issued
  | .pipelines => s.pipelines.issued
  | .syncs => s.syncs.issued
  | .sessions => s.sessions.issued

def StoreReply.number? : StoreReply → Option (NumberedTable × Int64)
  | .source stored => some (.sources, stored.id)
  | .pipeline stored => some (.pipelines, stored.id)
  | .sync stored => some (.syncs, stored.id)
  | .session id => some (.sessions, id)
  | .matched _ | .noted | .points _ => none

namespace StoreEntry

/-- The number that a call gave out, and its table. -/
def number? (entry : StoreEntry) : Option (NumberedTable × Int64) :=
  entry.reply.toOption.bind StoreReply.number?

def numberIn? (table : NumberedTable) (entry : StoreEntry) : Option Int64 :=
  entry.number?.bind fun (own, id) => if own = table then some id else none

/-- The key of the job that a call made possible. -/
def jobKey? (entry : StoreEntry) : Option JobKey :=
  entry.number?.bind fun
    | (.pipelines, id) => some (.pipeline id)
    | (.syncs, id) => some (.sync id)
    | _ => none

theorem numberIn?_of_jobKey? {entry : StoreEntry} {key : JobKey}
    (named : entry.jobKey? = some key) :
    match key with
    | .pipeline id => entry.numberIn? .pipelines = some id
    | .sync id => entry.numberIn? .syncs = some id := by
  rw [jobKey?] at named
  simp only [numberIn?]
  cases number : entry.number? with
  | none => rw [number] at named; cases named
  | some found =>
    obtain ⟨table, id⟩ := found
    rw [number] at named
    cases table <;> cases named <;> rfl

end StoreEntry

namespace Store

variable {s t : Store} {change : StoreChange} {reply : Except StoreError StoreReply}

/-- A change gives out the next number of a table, or none of it. -/
theorem Effect.issued (effect : Effect s change t reply) (table : NumberedTable) :
    (StoreEntry.numberIn? table ⟨change, reply⟩ = none ∧ t.issued table = s.issued table) ∨
      ∃ id, StoreEntry.numberIn? table ⟨change, reply⟩ = some id ∧
        id.toInt = s.issued table + 1 ∧ t.issued table = s.issued table + 1 := by
  cases effect with
  | insertSource source room =>
    cases table with
    | sources => exact .inr ⟨_, rfl, Table.toInt_nextId room, rfl⟩
    | pipelines | syncs | sessions => exact .inl ⟨rfl, rfl⟩
  | insertPipeline _ _ _ _ room =>
    cases table with
    | pipelines => exact .inr ⟨_, rfl, Table.toInt_nextId room, rfl⟩
    | sources | syncs | sessions => exact .inl ⟨rfl, rfl⟩
  | insertSync sync room =>
    cases table with
    | syncs => exact .inr ⟨_, rfl, Table.toInt_nextId room, rfl⟩
    | sources | pipelines | sessions => exact .inl ⟨rfl, rfl⟩
  | insertSession session room =>
    cases table with
    | sessions => exact .inr ⟨_, rfl, Table.toInt_nextId room, rfl⟩
    | sources | pipelines | syncs => exact .inl ⟨rfl, rfl⟩
  | refused | updateConfig | deletePipeline | updateLastSync | insertPoints =>
    cases table <;> exact .inl ⟨rfl, rfl⟩

/-- The numbers of a table that were given out are ascending, up to the greatest. -/
structure Issues (s : Store) (table : NumberedTable) (ids : List Int64) : Prop where
  ascending : ids.Pairwise (· < ·)
  given : ∀ id ∈ ids, id.toInt ≤ s.issued table

theorem Effect.issues {table : NumberedTable} {ids : List Int64}
    (effect : Effect s change t reply) (issues : s.Issues table ids) :
    t.Issues table (ids ++ (StoreEntry.numberIn? table ⟨change, reply⟩).toList) := by
  obtain ⟨none, same⟩ | ⟨id, some, isNext, grown⟩ := effect.issued table
  · rw [none, Option.toList_none, List.append_nil]
    exact ⟨issues.ascending, fun id mem => same ▸ issues.given id mem⟩
  · rw [some, Option.toList_some]
    refine ⟨List.pairwise_append.mpr ⟨issues.ascending, List.pairwise_singleton _ _, ?_⟩,
      List.forall_mem_append.mpr ⟨fun other mem => ?_, List.forall_mem_singleton.mpr ?_⟩⟩
    · intro other mem fresh isFresh
      rw [List.mem_singleton.mp isFresh, Int64.lt_iff_toInt_lt, isNext]
      exact Int.lt_add_one_of_le (issues.given other mem)
    · rw [grown]
      exact Int.le_trans (issues.given other mem) (Int.ofNat_le.mpr (Nat.le_succ _))
    · rw [isNext, grown]
      exact Int.le_refl _

theorem after_issues (changes : List StoreChange) (table : NumberedTable) :
    (after changes).Issues table
      ((transcript {} changes).filterMap (StoreEntry.numberIn? table)) := by
  refine transcript_induction
    (motive := fun log s => s.Issues table (log.filterMap (StoreEntry.numberIn? table)))
    ⟨.nil, nofun⟩ ?_ changes
  intro log s change t reply _ issues effect
  have next := effect.issues issues
  rw [List.filterMap_append]
  cases number : StoreEntry.numberIn? table ⟨change, reply⟩ with
  | none => simpa [number] using next
  | some id => simpa [number] using next

/-- No key of a job is given out twice. -/
theorem jobKeys_nodup (changes : List StoreChange) :
    ((transcript {} changes).filterMap StoreEntry.jobKey?).Nodup := by
  have pipelines := (after_issues changes .pipelines).ascending
  have syncs := (after_issues changes .syncs).ascending
  rw [List.pairwise_filterMap] at pipelines syncs
  rw [List.nodup_iff_pairwise_ne, List.pairwise_filterMap]
  refine (pipelines.and syncs).imp ?_
  rintro first second ⟨pipelines, syncs⟩ key keyOf other otherOf rfl
  have firstNumber := StoreEntry.numberIn?_of_jobKey? keyOf
  have secondNumber := StoreEntry.numberIn?_of_jobKey? otherOf
  cases key with
  | pipeline id => exact Int64.lt_irrefl (pipelines id firstNumber id secondNumber)
  | sync id => exact Int64.lt_irrefl (syncs id firstNumber id secondNumber)

end Store

end Geoflow
