import Geoflow.Proofs.Store.Documents
import Geoflow.Proofs.Store.Issued
import Geoflow.Proofs.Store.Sources
import Mathlib.Logic.Function.Basic

set_option autoImplicit false

namespace Geoflow

/-- A sync without the time of its last run. -/
def ExternalSync.untimed (sync : ExternalSync) : ExternalSync := { sync with lastSyncAt := none }

/-- What the calls of a history have written under each number. -/
structure Catalogue where
  source : Int64 → Option DataSource := fun _ => none
  pipeline : Int64 → Option Pipeline := fun _ => none
  sync : Int64 → Option ExternalSync := fun _ => none

namespace Catalogue

/-- The catalogue after one more call; a call that failed writes nothing. -/
def record (c : Catalogue) : StoreEntry → Catalogue
  | ⟨.insertSource source, .ok (.source stored)⟩ =>
    { c with source := Function.update c.source stored.id (some { source with id := stored.id }) }
  | ⟨.insertPipeline ownerId dataSourceId name config, .ok (.pipeline stored)⟩ =>
    let written : Pipeline := ⟨stored.id, ownerId, dataSourceId, name, config⟩
    { c with pipeline := Function.update c.pipeline stored.id (some written) }
  | ⟨.updateConfig id config, .ok _⟩ =>
    { c with pipeline :=
        Function.update c.pipeline id ((c.pipeline id).map fun old => { old with config }) }
  | ⟨.deletePipeline id, .ok _⟩ => { c with pipeline := Function.update c.pipeline id none }
  | ⟨.insertSync sync, .ok (.sync stored)⟩ =>
    { c with sync := Function.update c.sync stored.id (some { sync with id := stored.id }) }
  | _ => c

theorem record_error (c : Catalogue) (change : StoreChange) (e : StoreError) :
    c.record ⟨change, .error e⟩ = c := by
  cases change <;> rfl

/-- The catalogue of a history. -/
def ofLog (log : List StoreEntry) : Catalogue := log.foldl record {}

end Catalogue

namespace Table

variable {ρ σ α : Type} {t : Table ρ} {view : ρ → σ} {row : α → σ} {number : α → Int64}
  {entries : Int64 → Option α}

/-- A table holds what is written under its numbers, as far as the rows are looked at. -/
structure Holds (t : Table ρ) (view : ρ → σ) (row : α → σ) (number : α → Int64)
    (entries : Int64 → Option α) : Prop where
  rows : ∀ id, (t.get? id).map view = (entries id).map row
  numbers : ∀ id a, entries id = some a → number a = id

namespace Holds

theorem empty : Holds ({} : Table ρ) view row number fun _ => none :=
  ⟨fun _ => rfl, nofun⟩

variable (holds : t.Holds view row number entries) (sound : t.Sound)
include holds

theorem isSome_iff (id : Int64) : (t.get? id).isSome = (entries id).isSome := by
  rw [← Option.isSome_map (f := view), holds.rows, Option.isSome_map]

theorem get?_eq_none {id : Int64} (absent : entries id = none) : t.get? id = none := by
  have rows := holds.rows id
  rwa [absent, Option.map_none, Option.map_eq_none_iff] at rows

include sound

theorem push (room : t.HasRoom) {contents : ρ} {a : α} (same : view contents = row a)
    (own : number a = t.nextId) :
    (t.push contents).Holds view row number (Function.update entries t.nextId (some a)) := by
  constructor
  · intro id
    rw [sound.get?_push room, Function.update_apply]
    split
    · rw [Option.map_some, Option.map_some, same]
    · exact holds.rows id
  · intro id b written
    rw [Function.update_apply] at written
    split at written
    · rename_i isNext
      cases written
      exact own.trans isNext.symm
    · exact holds.numbers id b written

theorem alter (id : Int64) (change : ρ → ρ) (f : α → α)
    (same : ∀ r a, view r = row a → view (change r) = row (f a))
    (own : ∀ a, number (f a) = number a) :
    (t.alter id change).Holds view row number
      (Function.update entries id ((entries id).map f)) := by
  constructor
  · intro other
    have rows := holds.rows other
    rw [sound.get?_alter, Function.update_apply]
    split
    · rename_i isId
      subst isId
      revert rows
      cases t.get? other <;> cases entries other <;> simp
      exact same _ _
    · exact rows
  · intro other b written
    rw [Function.update_apply] at written
    split at written
    · rename_i isId
      subst isId
      obtain ⟨a, old, rfl⟩ := Option.map_eq_some_iff.mp written
      rw [own, holds.numbers _ a old]
    · exact holds.numbers other b written

/-- A change that is not looked at leaves everything as it was written. -/
theorem alter_hidden (id : Int64) (change : ρ → ρ) (hidden : ∀ r, view (change r) = view r) :
    (t.alter id change).Holds view row number entries := by
  refine ⟨fun other => ?_, holds.numbers⟩
  rw [sound.get?_alter, ← holds.rows other]
  split
  · rw [Option.map_map]
    exact congrArg (Option.map · _) (funext hidden)
  · rfl

theorem remove (id : Int64) :
    (t.remove id).Holds view row number (Function.update entries id none) := by
  constructor
  · intro other
    rw [sound.get?_remove, Function.update_apply]
    split
    · rfl
    · exact holds.rows other
  · intro other a written
    rw [Function.update_apply] at written
    split at written
    · cases written
    · exact holds.numbers other a written

end Holds

end Table

def PipelineRow.ofPipeline (p : Pipeline) : PipelineRow :=
  ⟨p.ownerId, p.dataSourceId, p.name, p.config.render⟩

/-- What is read is what was written, with the document of the text that was written. -/
def Pipeline.ReadsAs (written read : Pipeline) : Prop :=
  read = { written with config := read.config } ∧
    Json.parse? written.config.render = some read.config

/-- The row of a sync as if it had not run. -/
def SyncRow.untimed (row : SyncRow) : SyncRow := { row with lastSyncAt := none }

namespace Store

variable {s t : Store} {c : Catalogue} {change : StoreChange} {changes : List StoreChange}
  {reply : Except StoreError StoreReply}

/-- The tables hold what the catalogue says, times of syncs aside. -/
structure Refines (s : Store) (c : Catalogue) : Prop where
  source : s.sources.Holds id SourceRow.ofSource DataSource.id c.source
  pipeline : s.pipelines.Holds id PipelineRow.ofPipeline Pipeline.id c.pipeline
  sync : s.syncs.Holds SyncRow.untimed SyncRow.ofSync ExternalSync.id c.sync

theorem Effect.refines (effect : Effect s change t reply) (sound : s.Sound)
    (refines : s.Refines c) : t.Refines (c.record ⟨change, reply⟩) := by
  cases effect with
  | refused fault => exact (c.record_error change _).symm ▸ refines
  | insertSource source room =>
    exact { refines with source := refines.source.push sound.sources room rfl rfl }
  | insertPipeline ownerId dataSourceId name config room =>
    exact { refines with pipeline := refines.pipeline.push sound.pipelines room rfl rfl }
  | updateConfig id config =>
    have altered := refines.pipeline.alter sound.pipelines id
      (fun row => { row with config := config.render }) (fun old => { old with config })
      (fun row written same => by subst same; rfl) fun _ => rfl
    exact { refines with pipeline := altered }
  | deletePipeline id =>
    exact { refines with pipeline := refines.pipeline.remove sound.pipelines id }
  | insertSync sync room =>
    exact { refines with sync := refines.sync.push sound.syncs room rfl rfl }
  | updateLastSync id time =>
    have altered := refines.sync.alter_hidden sound.syncs id
      (fun row => { row with lastSyncAt := some time.toOffsetText }) fun _ => rfl
    exact { refines with sync := altered }
  | insertSession | insertPoints => exact { refines with }

theorem after_refines (changes : List StoreChange) :
    (after changes).Refines (.ofLog (transcript {} changes)) := by
  refine transcript_induction (motive := fun log s => s.Refines (.ofLog log))
    ⟨.empty, .empty, .empty⟩ ?_ changes
  intro log s change t reply sound refines effect
  rw [Catalogue.ofLog, List.foldl_append]
  exact effect.refines sound refines

/-- Every stored pipeline names a stored source. -/
def Referenced (s : Store) : Prop :=
  ∀ row ∈ s.pipelines.rows, (s.sources.get? row.2.dataSourceId).isSome

theorem Effect.referenced (effect : Effect s change t reply) (sound : s.Sound)
    (referenced : s.Referenced) : t.Referenced := by
  cases effect with
  | insertSource source room =>
    intro row mem
    have known := referenced row mem
    dsimp only
    rw [sound.sources.get?_push room]
    split
    · rfl
    · exact known
  | insertPipeline ownerId dataSourceId name config room known =>
    refine List.forall_mem_append.mpr ⟨referenced, fun row fresh => ?_⟩
    rw [List.mem_singleton.mp fresh]
    exact known
  | updateConfig id config =>
    intro row mem
    obtain ⟨old, kept, rfl⟩ := List.mem_map.mp mem
    have known := referenced old kept
    split
    · exact known
    · exact known
  | deletePipeline => exact fun row mem => referenced row (List.mem_of_mem_filter mem)
  | refused | insertSync | updateLastSync | insertSession | insertPoints => exact referenced

theorem after_referenced (changes : List StoreChange) : (after changes).Referenced :=
  Sound.lasts .empty changes (fun _ none => absurd none List.not_mem_nil)
    fun _ _ _ _ _ sound referenced effect => effect.referenced sound referenced

variable {sync : ExternalSync}

theorem getSource_of_refines (sound : s.Sound) (refines : s.Refines c) (key ownerId : Int64) :
    s.getSource key ownerId =
      .ok ((c.source key).filter fun source => source.ownerId == ownerId) := by
  have rows := refines.source.rows key
  rw [Option.map_id, id_eq] at rows
  rw [getSource]
  cases written : c.source key with
  | none =>
    rw [written, Option.map_none, Table.get?, Option.map_eq_none_iff] at rows
    rw [rows]
    rfl
  | some source =>
    rw [written, Option.map_some] at rows
    obtain ⟨place, hit, isKey⟩ := sound.sources.find?_of_get? rows
    have own : ({ source with id := Int64.ofNat place } : DataSource) = source := by
      rw [isKey, ← refines.source.numbers key source written]
    rw [hit]
    dsimp only
    rw [SourceRow.read_ofSource, own, Option.filter_some]
    by_cases owned : source.ownerId = ownerId
    · rw [if_pos (show (SourceRow.ofSource source).ownerId = ownerId from owned),
        if_pos (beq_iff_eq.mpr owned)]
      rfl
    · rw [if_neg (show ¬ (SourceRow.ofSource source).ownerId = ownerId from owned),
        if_neg fun same => owned (beq_iff_eq.mp same)]

theorem getPipeline_of_refines (sound : s.Sound) (legible : s.Legible) (refines : s.Refines c)
    (key : Int64) :
    match c.pipeline key with
    | none => s.getPipeline key = .ok none
    | some written => ∃ read, s.getPipeline key = .ok (some read) ∧ written.ReadsAs read := by
  have rows := refines.pipeline.rows key
  rw [Option.map_id, id_eq] at rows
  rw [getPipeline_eq sound legible]
  cases entry : c.pipeline key with
  | none =>
    rw [entry, Option.map_none] at rows
    rw [rows]
    rfl
  | some written =>
    rw [entry, Option.map_some] at rows
    obtain ⟨place, mem, -⟩ := sound.pipelines.get?_eq_some_iff.mp rows
    obtain ⟨config, parsed⟩ := Option.isSome_iff_exists.mp (legible _ mem)
    have parsed : Json.parse? written.config.render = some config := parsed
    refine ⟨{ written with config }, ?_, rfl, parsed⟩
    rw [rows, Option.map_some, PipelineRow.under, PipelineRow.ofPipeline, parsed,
      ← refines.pipeline.numbers key written entry]
    rfl

theorem getSync_of_refines (sound : s.Sound) (refines : s.Refines c) (key : Int64) :
    (s.getSync key).map ExternalSync.untimed = (c.sync key).map ExternalSync.untimed := by
  have rows := refines.sync.rows key
  rw [getSync]
  cases entry : c.sync key with
  | none =>
    rw [entry, Option.map_none, Table.get?, Option.map_eq_none_iff, Option.map_eq_none_iff] at rows
    rw [rows]
    rfl
  | some sync =>
    rw [entry, Option.map_some, Option.map_eq_some_iff] at rows
    obtain ⟨row, found, same⟩ := rows
    obtain ⟨place, hit, isKey⟩ := sound.syncs.find?_of_get? found
    rw [hit, Option.map_some, Option.map_some, Option.map_some]
    dsimp only
    obtain ⟨⟩ := row
    obtain ⟨⟩ := sync
    cases same
    have own := refines.sync.numbers key _ entry
    subst own
    rw [SyncRow.read, ExternalSync.untimed, ExternalSync.untimed, isKey]

theorem ids_ascending {ρ : Type} {table : Table ρ} (sound : table.Sound) :
    (table.rows.map fun row => Int64.ofNat row.1).Pairwise (· < ·) := by
  rw [List.pairwise_map]
  refine sound.ascending.imp_of_mem fun {a b} memA memB less => ?_
  have bound : ∀ row ∈ table.rows, row.1 ≤ Table.greatestId :=
    fun row mem => Nat.le_trans (sound.given row mem) sound.room
  rw [Int64.lt_iff_toInt_lt, Table.toInt_ofNat (bound a memA), Table.toInt_ofNat (bound b memB)]
  exact Int.ofNat_lt.mpr less

theorem mem_listPipelines (sound : s.Sound) (legible : s.Legible) (pipeline : Pipeline) :
    pipeline ∈ (s.pipelines.rows.map fun row => row.2.under (Int64.ofNat row.1)) ↔
      s.getPipeline pipeline.id = .ok (some pipeline) := by
  rw [List.mem_map, getPipeline_eq_some_iff sound legible]
  constructor
  · rintro ⟨row, mem, rfl⟩
    exact ⟨row.2, sound.pipelines.get?_eq_some_iff.mpr ⟨row.1, mem, rfl⟩, rfl⟩
  · rintro ⟨row, found, same⟩
    obtain ⟨place, mem, isKey⟩ := sound.pipelines.get?_eq_some_iff.mp found
    exact ⟨(place, row), mem, isKey ▸ same⟩

theorem mem_listSyncs (sound : s.Sound) (sync : ExternalSync) :
    sync ∈ (s.syncs.rows.map fun row => row.2.read row.1) ↔ s.getSync sync.id = some sync := by
  rw [List.mem_map, getSync, Option.map_eq_some_iff]
  constructor
  · rintro ⟨row, mem, rfl⟩
    exact ⟨row, sound.syncs.find?_eq_some_iff.mpr ⟨mem, rfl⟩, rfl⟩
  · rintro ⟨row, found, same⟩
    exact ⟨row, (sound.syncs.find?_eq_some_iff.mp found).1, same⟩

def keys (s : Store) : List (List Nat) :=
  [s.sources.rows.map Prod.fst, s.pipelines.rows.map Prod.fst, s.syncs.rows.map Prod.fst,
    s.sessions.rows.map Prod.fst, s.points.rows.map Prod.fst]

theorem nodup_of_mem_keys (sound : s.Sound) : ∀ numbers ∈ s.keys, numbers.Nodup := by
  have apart : ∀ {ρ : Type} {table : Table ρ}, table.Sound → (table.rows.map Prod.fst).Nodup :=
    fun sound => List.pairwise_map.mpr (sound.ascending.imp Nat.ne_of_lt)
  simp only [keys, List.forall_mem_cons, List.not_mem_nil, false_implies, implies_true, and_true]
  exact ⟨apart sound.sources, apart sound.pipelines, apart sound.syncs, apart sound.sessions,
    apart sound.points⟩

theorem perform_of_error (sound : s.Sound) {e : StoreError}
    (failed : (change.perform s).2 = .error e) : (change.perform s).1 = s := by
  have effect := sound.effect change
  rw [failed] at effect
  generalize (change.perform s).1 = t at effect ⊢
  cases effect
  rfl

/-- A store is what its history says.

* `distinct`: no number stands twice in a table.
* `ascending`: a table gives out its numbers in ascending order, so none comes back.
* `jobKeys`: nor does the key of a job.
* `referenced`, `unknown`: a stored pipeline names a stored source, and no other can be stored.
* `refused`: a call that fails changes nothing.
* `source`, `pipeline`, `sync`: what is found under a number is what was last written there.
* `listed`, `listedSyncs`: the lists hold what can be found, in the order of the numbers.
* `updated`, `deleted`: the answer tells whether there is a row, and no other row is touched. -/
structure Follows (s : Store) (log : List StoreEntry) : Prop where
  distinct : ∀ numbers ∈ s.keys, numbers.Nodup
  ascending : ∀ table, (log.filterMap (StoreEntry.numberIn? table)).Pairwise (· < ·)
  jobKeys : (log.filterMap StoreEntry.jobKey?).Nodup
  referenced : ∀ row ∈ s.pipelines.rows, (s.sources.find? row.2.dataSourceId).isSome
  unknown : ∀ ownerId dataSourceId name config, s.sources.find? dataSourceId = none →
    ∃ e, s.insertPipeline ownerId dataSourceId name config = (s, .error e) ∧
      e.code = "DATABASE_ERROR"
  refused : ∀ change e, (StoreChange.perform s change).2 = .error e →
    (StoreChange.perform s change).1 = s
  source : ∀ id ownerId, s.getSource id ownerId =
    .ok (((Catalogue.ofLog log).source id).filter fun source => source.ownerId == ownerId)
  pipeline : ∀ id, match (Catalogue.ofLog log).pipeline id with
    | none => s.getPipeline id = .ok none
    | some written => ∃ read, s.getPipeline id = .ok (some read) ∧ written.ReadsAs read
  sync : ∀ id, (s.getSync id).map ExternalSync.untimed =
    ((Catalogue.ofLog log).sync id).map ExternalSync.untimed
  listed : ∃ all, s.listPipelines = .ok all ∧ (all.map Pipeline.id).Pairwise (· < ·) ∧
    ∀ pipeline, pipeline ∈ all ↔ s.getPipeline pipeline.id = .ok (some pipeline)
  listedSyncs : (s.listSyncs.map ExternalSync.id).Pairwise (· < ·) ∧
    ∀ sync, sync ∈ s.listSyncs ↔ s.getSync sync.id = some sync
  updated : ∀ id config,
    s.updateConfig id config =
      ({ s with pipelines := s.pipelines.alter id fun row => { row with config := config.render } },
        .ok ((Catalogue.ofLog log).pipeline id).isSome) ∧
    ((Catalogue.ofLog log).pipeline id = none → (s.updateConfig id config).1 = s)
  deleted : ∀ id,
    s.deletePipeline id =
      ({ s with pipelines := s.pipelines.remove id },
        .ok ((Catalogue.ofLog log).pipeline id).isSome) ∧
    ((Catalogue.ofLog log).pipeline id = none → (s.deletePipeline id).1 = s)

/-- Every store that has lived through changes with storable documents, some of which may have
failed, is what its history says. -/
theorem after_follows (storable : ∀ change ∈ changes, change.Storable) :
    (after changes).Follows (transcript {} changes) := by
  have sound := after_sound changes
  have legible := after_legible storable
  have refines := after_refines changes
  have isStored := refines.pipeline.isSome_iff
  refine
    { distinct := nodup_of_mem_keys sound
      ascending := fun table => (after_issues changes table).ascending
      jobKeys := jobKeys_nodup changes
      referenced := ?_
      unknown := ?_
      refused := fun _ _ failed => perform_of_error sound failed
      source := getSource_of_refines sound refines
      pipeline := getPipeline_of_refines sound legible refines
      sync := getSync_of_refines sound refines
      listed := ⟨_, listPipelines_eq legible, ?_, mem_listPipelines sound legible⟩
      listedSyncs := ?_
      updated := ?_
      deleted := ?_ }
  · intro row mem
    have known := after_referenced changes row mem
    rwa [Table.get?, Option.isSome_map] at known
  · intro ownerId dataSourceId name config unknown
    have missing : (after changes).sources.get? dataSourceId = none := by
      rw [Table.get?, unknown, Option.map_none]
    obtain ⟨fault, refused⟩ := insertPipeline_of_unknown ownerId name config missing
    exact ⟨_, refused, rfl⟩
  · rw [List.map_map]
    exact ids_ascending sound.pipelines
  · rw [listSyncs, List.map_map]
    exact ⟨ids_ascending sound.syncs, mem_listSyncs sound⟩
  · intro id config
    rw [updateConfig_eq sound, isStored]
    refine ⟨rfl, fun absent => ?_⟩
    dsimp only
    rw [sound.pipelines.alter_of_none (refines.pipeline.get?_eq_none absent)]
  · intro id
    rw [deletePipeline_eq sound, isStored]
    refine ⟨rfl, fun absent => ?_⟩
    dsimp only
    rw [sound.pipelines.remove_of_none (refines.pipeline.get?_eq_none absent)]

/-- A pipeline is deleted and another one stored, one call names a source that is not there, and one
a pipeline that is gone. -/
def livelyHistory : List StoreChange :=
  [.insertSource ⟨0, 7, "crm", "postgresql", "db.internal", 5432, "crm", "etl", "cafebabe"⟩,
    .insertPipeline 7 1 "first" (.obj [("ratio", .float ⟨0x3FB999999999999A⟩)]),
    .insertPipeline 7 9 "astray" .null, .deletePipeline 1,
    .insertPipeline 8 1 "second" .null, .updateConfig 2 (.arr [.str "\"", .int (-1)]),
    .updateConfig 1 .null]

theorem after_follows_lively :
    (∀ change ∈ livelyHistory, change.Storable) ∧
      (after livelyHistory).Follows (transcript {} livelyHistory) ∧
      (transcript {} livelyHistory).filterMap StoreEntry.jobKey? = [.pipeline 1, .pipeline 2] ∧
      (Catalogue.ofLog (transcript {} livelyHistory)).pipeline 2 =
        some ⟨2, 8, 1, "second", .arr [.str "\"", .int (-1)]⟩ ∧
      (after livelyHistory).getPipeline 1 = .ok none := by
  have ratio : Json.Storable (.obj [("ratio", .float ⟨0x3FB999999999999A⟩)]) :=
    .obj (by decide) (List.forall_mem_singleton.mpr (.float (by decide)))
  have quoted : Json.Storable (.arr [.str "\"", .int (-1)]) :=
    .arr (List.forall_mem_cons.mpr ⟨.str _, List.forall_mem_singleton.mpr
      (.int (by decide) (by decide))⟩)
  have storable : ∀ change ∈ livelyHistory, change.Storable := by
    simp only [livelyHistory, List.forall_mem_cons, List.not_mem_nil, false_implies, implies_true]
    exact ⟨trivial, ratio, .null, trivial, .null, quoted, .null, trivial⟩
  exact ⟨storable, after_follows storable, rfl, rfl, rfl⟩

end Store

end Geoflow
