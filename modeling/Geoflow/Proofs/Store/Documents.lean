import Geoflow.Proofs.Json.ReadBack
import Geoflow.Proofs.Store.Transcript
import Geoflow.Sql.Statement

set_option autoImplicit false

namespace Geoflow

def PipelineRow.under (row : PipelineRow) (id : Int64) : Pipeline :=
  ⟨id, row.ownerId, row.dataSourceId, row.name, (Json.parse? row.config).getD .null⟩

def PipelineRow.Legible (row : PipelineRow) : Prop := (Json.parse? row.config).isSome = true

theorem PipelineRow.Legible.read {row : PipelineRow} (legible : row.Legible) (key : Nat) :
    row.read key = .ok (row.under (Int64.ofNat key)) := by
  obtain ⟨config, parsed⟩ := Option.isSome_iff_exists.mp legible
  rw [PipelineRow.read, under, parsed]
  rfl

/-- The document that a change brings can be written as a text and read again. -/
def StoreChange.Storable : StoreChange → Prop
  | .insertPipeline _ _ _ config => config.Storable
  | .updateConfig _ config => config.Storable
  | _ => True

/-- A change neither replaces the document of a pipeline nor deletes it. -/
def StoreChange.Spares (id : Int64) : StoreChange → Prop
  | .updateConfig other _ => other ≠ id
  | .deletePipeline other => other ≠ id
  | _ => True

namespace Store

variable {s t : Store} {change : StoreChange} {changes later : List StoreChange}
  {reply : Except StoreError StoreReply} {id : Int64} {row : PipelineRow} {pipeline : Pipeline}
  {config : Json}

/-- The documents of all pipelines can be read. -/
def Legible (s : Store) : Prop := ∀ row ∈ s.pipelines.rows, row.2.Legible

theorem Effect.legible (effect : Effect s change t reply) (storable : change.Storable)
    (legible : s.Legible) : t.Legible := by
  cases effect with
  | insertPipeline _ _ _ config =>
    refine List.forall_mem_append.mpr ⟨legible, fun row fresh => ?_⟩
    rw [List.mem_singleton.mp fresh]
    exact Json.Storable.parse?_isSome storable
  | updateConfig id config =>
    intro row mem
    obtain ⟨old, kept, rfl⟩ := List.mem_map.mp mem
    split
    · exact Json.Storable.parse?_isSome storable
    · exact legible old kept
  | deletePipeline => exact fun row mem => legible row (List.mem_of_mem_filter mem)
  | refused | insertSource | insertSync | updateLastSync | insertSession | insertPoints =>
    exact legible

theorem after_legible (storable : ∀ change ∈ changes, change.Storable) : (after changes).Legible :=
  Sound.lasts .empty changes (fun _ none => absurd none List.not_mem_nil)
    fun _ mem _ _ _ _ legible effect => effect.legible (storable _ mem) legible

theorem mapM_ok {α β : Type} {f : α → Except StoreError β} {g : α → β} {as : List α}
    (each : ∀ a ∈ as, f a = .ok (g a)) : as.mapM f = .ok (as.map g) := by
  induction as with
  | nil => rfl
  | cons a as ih =>
    obtain ⟨first, each⟩ := List.forall_mem_cons.mp each
    rw [List.mapM_cons, first, ih each]
    rfl

theorem listPipelines_eq (legible : s.Legible) :
    s.listPipelines =
      .ok (s.pipelines.rows.map fun row => row.2.under (Int64.ofNat row.1)) :=
  mapM_ok fun row mem => (legible row mem).read row.1

theorem getPipeline_eq (sound : s.Sound) (legible : s.Legible) (id : Int64) :
    s.getPipeline id = .ok ((s.pipelines.get? id).map (·.under id)) := by
  rw [getPipeline]
  cases found : s.pipelines.get? id with
  | none =>
    rw [Table.get?, Option.map_eq_none_iff] at found
    rw [found]
    rfl
  | some row =>
    obtain ⟨key, hit, isKey⟩ := sound.pipelines.find?_of_get? found
    have mem := List.mem_of_find?_eq_some hit
    rw [hit]
    dsimp only
    rw [(legible _ mem).read key, isKey]
    rfl

/-- A pipeline is found under its number and stands once in the list of all, with a document that
makes the same statement and the same schedule as the given one. -/
structure Shows (s : Store) (pipeline : Pipeline) (document : Json) : Prop where
  found : s.getPipeline pipeline.id = .ok (some pipeline)
  listed : ∃ all, s.listPipelines = .ok all ∧
    all.filter (fun other => other.id == pipeline.id) = [pipeline]
  same : pipeline.config = document
  compiled : ∀ dialect,
    Sql.compileDocument pipeline.config dialect = Sql.compileDocument document dialect
  scheduled : ScheduleConfig.read pipeline.config = ScheduleConfig.read document

theorem filter_rows (sound : s.Sound) (found : s.pipelines.get? id = some row) :
    ((s.pipelines.rows.map fun row => row.2.under (Int64.ofNat row.1)).filter
      fun other => other.id == id) = [row.under id] := by
  obtain ⟨key, only, isKey⟩ := sound.pipelines.filter_of_get? found
  have byNumber : ((fun other : Pipeline => other.id == id) ∘
      fun row : Nat × PipelineRow => row.2.under (Int64.ofNat row.1)) =
        fun row => Int64.ofNat row.1 == id := rfl
  rw [List.filter_map, byNumber, only, List.map_singleton, isKey]

theorem shows_of_get? (sound : s.Sound) (legible : s.Legible)
    (found : s.pipelines.get? id = some row) (kept : Json.parse? row.config = some config) :
    s.Shows ⟨id, row.ownerId, row.dataSourceId, row.name, config⟩ config := by
  have pipeline : row.under id = ⟨id, row.ownerId, row.dataSourceId, row.name, config⟩ := by
    rw [PipelineRow.under, kept]
    rfl
  rw [← pipeline]
  refine ⟨?_, ⟨_, listPipelines_eq legible, filter_rows sound found⟩, ?_, fun _ => ?_, ?_⟩
  · rw [PipelineRow.under, getPipeline_eq sound legible, found]
    rfl
  · rw [pipeline]
  · rw [pipeline]
  · rw [pipeline]

/-- A change that spares a pipeline leaves its row as it is. -/
theorem Effect.get?_of_spares (effect : Effect s change t reply) (sound : s.Sound)
    (spares : change.Spares id) (found : s.pipelines.get? id = some row) :
    t.pipelines.get? id = some row := by
  cases effect with
  | insertPipeline _ _ _ _ room =>
    have fresh : id ≠ s.pipelines.nextId := by
      rintro rfl
      rw [sound.pipelines.get?_nextId room] at found
      cases found
    dsimp only
    rw [sound.pipelines.get?_push room, if_neg fresh, found]
  | updateConfig other config =>
    dsimp only
    rw [sound.pipelines.get?_alter, if_neg (Ne.symm spares), found]
  | deletePipeline other =>
    dsimp only
    rw [sound.pipelines.get?_remove, if_neg (Ne.symm spares), found]
  | refused | insertSource | insertSync | updateLastSync | insertSession | insertPoints =>
    exact found

theorem shows_later (row : PipelineRow) (sound : s.Sound) (legible : s.Legible)
    (found : s.pipelines.get? id = some row) (kept : Json.parse? row.config = some config)
    (storable : ∀ change ∈ later, change.Storable) (spared : ∀ change ∈ later, change.Spares id) :
    (later.foldl StoreChange.apply s).Shows
      ⟨id, row.ownerId, row.dataSourceId, row.name, config⟩ config := by
  have lasting := sound.lasts
    (motive := fun s => s.Sound ∧ s.Legible ∧ s.pipelines.get? id = some row)
    later ⟨sound, legible, found⟩ ?_
  · exact shows_of_get? lasting.1 lasting.2.1 lasting.2.2 kept
  · rintro change mem s t reply sound ⟨-, legible, found⟩ effect
    exact ⟨effect.sound sound, effect.legible (storable change mem) legible,
      effect.get?_of_spares sound (spared change mem) found⟩

theorem insertPipeline_ok_iff (sound : s.Sound) {ownerId dataSourceId : Int64} {name : String} :
    (s.insertPipeline ownerId dataSourceId name config).2 = .ok pipeline ↔
      (s.sources.get? dataSourceId).isSome ∧ s.pipelines.HasRoom ∧
        pipeline = ⟨s.pipelines.nextId, ownerId, dataSourceId, name, config⟩ := by
  cases known : s.sources.get? dataSourceId with
  | none =>
    obtain ⟨fault, refused⟩ := insertPipeline_of_unknown ownerId name config known
    simp [refused]
  | some source =>
    by_cases room : s.pipelines.HasRoom
    · rw [insertPipeline_of_known sound room (by rw [known, Option.isSome_some])]
      simp [room, eq_comm]
    · simp [insertPipeline_of_full sound room, room]

theorem getPipeline_eq_some_iff (sound : s.Sound) (legible : s.Legible) :
    s.getPipeline id = .ok (some pipeline) ↔
      ∃ row, s.pipelines.get? id = some row ∧ row.under id = pipeline := by
  rw [getPipeline_eq sound legible, Except.ok.injEq, Option.map_eq_some_iff]

theorem updateConfig_ok_iff (sound : s.Sound) :
    (s.updateConfig id config).2 = .ok true ↔ ∃ row, s.pipelines.get? id = some row := by
  rw [updateConfig_eq sound, Except.ok.injEq, Option.isSome_iff_exists]

theorem Sound.apply (sound : s.Sound) (change : StoreChange) : (change.apply s).Sound :=
  perform_fst s change ▸ sound.perform change

theorem Legible.apply (legible : s.Legible) (sound : s.Sound) (storable : change.Storable) :
    (change.apply s).Legible :=
  perform_fst s change ▸ (sound.effect change).legible storable legible

/-- The document of a new pipeline is shown for as long as it is spared. -/
theorem shows_inserted (sound : s.Sound) (legible : s.Legible) (exact : config.Exact)
    {ownerId dataSourceId : Int64} {name : String}
    (answered : (s.insertPipeline ownerId dataSourceId name config).2 = .ok pipeline)
    (storable : ∀ change ∈ later, change.Storable)
    (spared : ∀ change ∈ later, change.Spares pipeline.id) :
    pipeline = ⟨pipeline.id, ownerId, dataSourceId, name, config⟩ ∧
      (later.foldl StoreChange.apply
        (StoreChange.apply s (.insertPipeline ownerId dataSourceId name config))).Shows
          pipeline config := by
  obtain ⟨known, room, rfl⟩ := (insertPipeline_ok_iff sound).mp answered
  have kept : Json.parse? config.render = some config := exact.parse?
  have added : (StoreChange.apply s (.insertPipeline ownerId dataSourceId name config)).pipelines =
      s.pipelines.push ⟨ownerId, dataSourceId, name, config.render⟩ := by
    rw [StoreChange.apply, insertPipeline_of_known sound room known]
  refine ⟨rfl, shows_later ⟨ownerId, dataSourceId, name, config.render⟩ (sound.apply _)
    (legible.apply sound (Json.Exact.storable exact)) ?_ kept storable spared⟩
  rw [added, sound.pipelines.get?_push room, if_pos rfl]

/-- The new document of a stored pipeline is shown for as long as it is spared. -/
theorem shows_updated (sound : s.Sound) (legible : s.Legible) (exact : config.Exact)
    (found : s.pipelines.get? id = some row) (storable : ∀ change ∈ later, change.Storable)
    (spared : ∀ change ∈ later, change.Spares id) :
    (later.foldl StoreChange.apply (StoreChange.apply s (.updateConfig id config))).Shows
      { row.under id with config } config := by
  have kept : Json.parse? config.render = some config := exact.parse?
  have changed : (StoreChange.apply s (.updateConfig id config)).pipelines =
      s.pipelines.alter id fun row => { row with config := config.render } := by
    rw [StoreChange.apply, updateConfig_eq sound]
  refine shows_later { row with config := config.render } (sound.apply _)
    (legible.apply sound (Json.Exact.storable exact)) ?_ kept storable spared
  rw [changed, sound.pipelines.get?_alter, show (row.under id).id = id from rfl, if_pos rfl, found]
  rfl

theorem after_append (change : StoreChange) :
    after (changes ++ change :: later) =
      later.foldl StoreChange.apply (change.apply (after changes)) := by
  rw [after, List.foldl_append, List.foldl_cons]
  rfl

/-- A document without doubles is what a pipeline is found with, alone and among all, after it was
stored with the pipeline or put in the place of another document, until a change does not spare the
pipeline. The pipeline is stored if its source is and numbers are left; a document is replaced if
the pipeline is stored. -/
theorem documents_survive (exact : config.Exact)
    (storable : ∀ change ∈ changes ++ later, change.Storable) :
    (∀ ownerId dataSourceId name,
      ((∃ pipeline, ((after changes).insertPipeline ownerId dataSourceId name config).2 =
          .ok pipeline) ↔
        ((after changes).sources.find? dataSourceId).isSome ∧
          (after changes).pipelines.issued < Table.greatestId) ∧
      ∀ pipeline, ((after changes).insertPipeline ownerId dataSourceId name config).2 =
          .ok pipeline →
        (∀ change ∈ later, change.Spares pipeline.id) →
        pipeline = ⟨pipeline.id, ownerId, dataSourceId, name, config⟩ ∧
          (after (changes ++ .insertPipeline ownerId dataSourceId name config :: later)).Shows
            pipeline config) ∧
    ∀ id,
      (((after changes).updateConfig id config).2 = .ok true ↔
        ∃ old, (after changes).getPipeline id = .ok (some old)) ∧
      ∀ old, (after changes).getPipeline id = .ok (some old) →
        (∀ change ∈ later, change.Spares id) →
        (after (changes ++ .updateConfig id config :: later)).Shows { old with config } config := by
  have sound := after_sound changes
  have legible := after_legible fun change mem => storable change (List.mem_append_left _ mem)
  have later_storable := fun change mem => storable change (List.mem_append_right changes mem)
  simp only [after_append]
  generalize after changes = s at sound legible ⊢
  refine ⟨fun ownerId dataSourceId name => ⟨?_, fun pipeline answered spared =>
    shows_inserted sound legible exact answered later_storable spared⟩, fun id => ⟨?_, ?_⟩⟩
  · simp only [insertPipeline_ok_iff sound, Table.get?, Option.isSome_map]
    constructor
    · rintro ⟨pipeline, known, room, -⟩
      exact ⟨known, room⟩
    · rintro ⟨known, room⟩
      exact ⟨_, known, room, rfl⟩
  · simp only [updateConfig_ok_iff sound, getPipeline_eq_some_iff sound legible]
    constructor
    · rintro ⟨row, found⟩
      exact ⟨_, row, found, rfl⟩
    · rintro ⟨old, row, found, -⟩
      exact ⟨row, found⟩
  · intro old got spared
    obtain ⟨row, found, rfl⟩ := (getPipeline_eq_some_iff sound legible).mp got
    exact shows_updated sound legible exact found later_storable spared

def wideDocument : Json :=
  .obj [("\"a\\\n\x01é", .arr [.int (-2 ^ 63), .int (2 ^ 64 - 1), .null]),
    ("z", .obj [("", .bool true)])]

/-- A source, and a pipeline on it whose document holds a double. -/
def ratioHistory : List StoreChange :=
  [.insertSource ⟨0, 7, "crm", "postgresql", "db.internal", 5432, "crm", "etl", "cafebabe"⟩,
    .insertPipeline 7 1 "first" (.obj [("ratio", .float ⟨0x3FB999999999999A⟩)])]

/-- Changes that spare all pipelines but the first. -/
def sparingHistory : List StoreChange := [.updateConfig 1 .null, .deletePipeline 1]

theorem documents_survive_wide :
    wideDocument.Exact ∧ (∀ change ∈ ratioHistory ++ sparingHistory, change.Storable) ∧
      ((after ratioHistory).insertPipeline 7 1 "second" wideDocument).2 =
        .ok ⟨2, 7, 1, "second", wideDocument⟩ ∧
      (∀ change ∈ sparingHistory, change.Spares 2) ∧
      (after (ratioHistory ++ .insertPipeline 7 1 "second" wideDocument :: sparingHistory)).Shows
        ⟨2, 7, 1, "second", wideDocument⟩ wideDocument := by
  have exact : wideDocument.Exact := by
    refine .obj (by decide) (List.forall_mem_cons.mpr ⟨?_, List.forall_mem_singleton.mpr ?_⟩)
    · refine .arr (List.forall_mem_cons.mpr ⟨.int (by decide) (by decide),
        List.forall_mem_cons.mpr ⟨.int (by decide) (by decide),
          List.forall_mem_singleton.mpr .null⟩⟩)
    · exact .obj (by decide) (List.forall_mem_singleton.mpr (.bool true))
  have ratio : Json.Storable (.obj [("ratio", .float ⟨0x3FB999999999999A⟩)]) :=
    .obj (by decide) (List.forall_mem_singleton.mpr (.float (by decide)))
  have storable : ∀ change ∈ ratioHistory ++ sparingHistory, change.Storable := by
    intro change mem
    simp only [ratioHistory, sparingHistory, List.cons_append, List.nil_append, List.mem_cons,
      List.not_mem_nil, or_false] at mem
    obtain rfl | rfl | rfl | rfl := mem
    · trivial
    · exact ratio
    · exact Json.Proper.null
    · trivial
  have answered : ((after ratioHistory).insertPipeline 7 1 "second" wideDocument).2 =
      .ok ⟨2, 7, 1, "second", wideDocument⟩ := rfl
  have spared : ∀ change ∈ sparingHistory, change.Spares 2 := by
    intro change mem
    simp only [sparingHistory, List.mem_cons, List.not_mem_nil, or_false] at mem
    obtain rfl | rfl := mem
    · exact show (1 : Int64) ≠ 2 by decide
    · exact show (1 : Int64) ≠ 2 by decide
  exact ⟨exact, storable, answered, spared,
    (((documents_survive exact storable).1 7 1 "second").2 _ answered spared).2⟩

end Store

end Geoflow
