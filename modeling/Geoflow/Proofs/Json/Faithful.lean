import Geoflow.Pipeline
import Geoflow.Proofs.Json.Parsed
import Geoflow.Proofs.Schedule.KeyText
import Geoflow.Source
import Geoflow.Sync.Payload
import Geoflow.Validation.Result

set_option autoImplicit false

namespace Geoflow

/-- A writer and a reader that agree. What is written for a whole value is read as that value; and
what is read at all, from a document or from a raw text, is a whole value. Values are documents
here, in which a double stands as it is. In a text the reader may take a double for its neighbour,
so the text that is written for a value is promised to bring it back only where it has no double. -/
structure Faithful {α : Type} (whole : α → Prop) (write : α → Json)
    (read : {δ : Type} → [Document δ] → δ → Except ReadError α) : Prop where
  comesBack : ∀ a, whole a → read (write a) = .ok a
  settles : ∀ (doc : Json) (a : α), doc.Sane → read doc = .ok a →
    whole a ∧ read (write a) = .ok a
  settlesRaw : ∀ (raw : Json.Nested) (a : α), read raw = .ok a →
    whole a ∧ read (write a) = .ok a
  comesBackAsText : ∀ a, whole a → (write a).Exact →
    ∃ doc, Json.parse? (write a).render = some doc ∧ read doc = .ok a

section

variable {α : Type} {whole : α → Prop} {write : α → Json}
  {read : {δ : Type} → [Document δ] → δ → Except ReadError α}

theorem Faithful.of_sound (comesBack : ∀ a, whole a → read (write a) = .ok a)
    (sound : ∀ {δ : Type} [Document δ] {holds : δ → Prop}, Document.Regular holds →
      ∀ d a, holds d → read d = .ok a → whole a) : Faithful whole write read where
  comesBack := comesBack
  settles := by
    intro doc a sane reads
    have isWhole := sound Json.sane_regular doc a sane reads
    exact ⟨isWhole, comesBack a isWhole⟩
  settlesRaw := by
    intro raw a reads
    have isWhole := sound Json.nested_regular raw a trivial reads
    exact ⟨isWhole, comesBack a isWhole⟩
  comesBackAsText := by
    intro a isWhole exact
    exact ⟨write a, exact.parse?, comesBack a isWhole⟩

/-- Where all values are whole, it is enough that they come back. -/
theorem Faithful.of_total (comesBack : ∀ a, read (write a) = .ok a) :
    Faithful (fun _ => True) write read :=
  .of_sound (fun a _ => comesBack a) fun _ _ _ _ _ => trivial

end

theorem readString_str (s : String) : readString (Json.str s) = .ok s := rfl

theorem DataSource.read_toJson (s : DataSource) : read s.toJson = .ok s := by
  apply readShape_written
  simp only [Fields.required]
  rw [Fields.field_written "id" rfl (readInt64_int s.id),
    Fields.field_written "owner_id" rfl (readInt64_int s.ownerId),
    Fields.field_written "name" rfl (readString_str s.name),
    Fields.field_written "provider" rfl (readString_str s.provider),
    Fields.field_written "host" rfl (readString_str s.host),
    Fields.field_written "port" rfl (readUInt16_int s.port),
    Fields.field_written "database" rfl (readString_str s.database),
    Fields.field_written "username" rfl (readString_str s.username),
    Fields.field_written "password" rfl (readString_str s.password)]
  rfl

theorem Pipeline.read_toJson (p : Pipeline) : read p.toJson = .ok p := by
  have document : readDocument p.config = .ok p.config := rfl
  apply readShape_written
  simp only [Fields.required]
  rw [Fields.field_written "id" rfl (readInt64_int p.id),
    Fields.field_written "owner_id" rfl (readInt64_int p.ownerId),
    Fields.field_written "data_source_id" rfl (readInt64_int p.dataSourceId),
    Fields.field_written "name" rfl (readString_str p.name),
    Fields.field_written "config" rfl document]
  rfl

theorem JoinConfig.read_toJson (j : JoinConfig) : read j.toJson = .ok j := by
  apply readShape_written
  simp only [Fields.required, Fields.withDefault]
  rw [Fields.field_written "type" rfl (readString_str j.kind),
    Fields.field_written "table" rfl (readString_str j.table),
    Fields.field_written "on_source" rfl (readString_str j.onSource),
    Fields.field_written "on_target" rfl (readString_str j.onTarget)]
  rfl

theorem ColumnMapping.read_toJson (m : ColumnMapping) : read m.toJson = .ok m := by
  apply readShape_written
  simp only [Fields.required]
  rw [Fields.field_written "target_column" rfl (readString_str m.targetColumn),
    Fields.field_written "expression" rfl (readString_str m.expression)]
  rfl

theorem FilterConfig.read_toJson (f : FilterConfig) : read f.toJson = .ok f := by
  apply readShape_written
  simp only [Fields.required]
  rw [Fields.field_written "column" rfl (readString_str f.column),
    Fields.field_written "operator" rfl (readString_str f.operator),
    Fields.field_written "value" rfl (readString_str f.value)]
  rfl

theorem PipelineConfig.read_toJson (c : PipelineConfig) : read c.toJson = .ok c := by
  have joins : readList JoinConfig.read (Json.arr (c.joins.map JoinConfig.toJson)) = .ok c.joins :=
    readList_arr fun j _ => j.read_toJson
  have mappings : readList ColumnMapping.read (Json.arr (c.mappings.map ColumnMapping.toJson)) =
      .ok c.mappings := readList_arr fun m _ => m.read_toJson
  have filters : readList FilterConfig.read (Json.arr (c.filters.map FilterConfig.toJson)) =
      .ok c.filters := readList_arr fun f _ => f.read_toJson
  have limit := readOption_of readUInt64_int nofun c.limit
  apply readShape_written
  simp only [Fields.withDefault]
  rw [Fields.field_written "base_table" rfl (readString_str c.baseTable),
    Fields.field_written "joins" rfl joins, Fields.field_written "mappings" rfl mappings,
    Fields.field_written "filters" rfl filters, Fields.field_written "limit" rfl limit]
  rfl

theorem IngestReceipt.read_toJson (r : IngestReceipt) : read r.toJson = .ok r := by
  apply readShape_written
  simp only [Fields.required]
  rw [Fields.field_written "batch_id" rfl (readString_str r.batchId),
    Fields.field_written "accepted" rfl (readSize_int r.accepted)]
  rfl

section Exact

variable {allowed : Binary64 → Prop} {depth : Nat}

theorem Json.Proper.int64 (n : Int64) : Json.Proper allowed depth (.int n.toInt) :=
  .int (Int64.le_toInt n) (Int.lt_trans (Int64.toInt_lt n) (by decide))

theorem Json.Proper.natCast {n : Nat} (below : n < 2 ^ 64) : Json.Proper allowed depth (.int n) :=
  .int (by omega) (by omega)

theorem Json.Proper.object {entries : List (String × Json)}
    (each : entries.Forall fun entry => Json.Proper allowed depth entry.2) :
    Json.Proper allowed (depth + 1) (.ofEntries entries) :=
  .ofEntries (List.forall_iff_forall_mem.mp each)

theorem Json.Proper.array {α : Type} {write : α → Json} {as : List α}
    (each : ∀ a, Json.Proper allowed depth (write a)) :
    Json.Proper allowed (depth + 1) (.arr (as.map write)) :=
  .arr (List.forall_mem_map.mpr fun a _ => each a)

theorem DataSource.exact_toJson (s : DataSource) : s.toJson.Exact :=
  .object ⟨.int64 s.id, .int64 s.ownerId, .str _, .str _, .str _,
    .natCast (Nat.lt_trans s.port.toNat_lt (by decide)), .str _, .str _, .str _⟩

theorem IngestReceipt.exact_toJson (r : IngestReceipt) : r.toJson.Exact :=
  .object ⟨.str _, .natCast r.accepted.toNat_lt⟩

theorem JobKey.exact_toJson (k : JobKey) : k.toJson.Exact := .object ⟨.str _, .int64 k.id⟩

/-- The free document stands one level below the pipeline's own. -/
theorem Pipeline.exact_toJson {p : Pipeline}
    (exact : Json.Proper (fun _ => False) (Json.depthLimit - 1) p.config) : p.toJson.Exact :=
  .object ⟨.int64 p.id, .int64 p.ownerId, .int64 p.dataSourceId, .str _, exact⟩

theorem PipelineConfig.exact_toJson (c : PipelineConfig) : c.toJson.Exact := by
  have limit : Json.Proper (fun _ => False) (Json.depthLimit - 1)
      (Json.ofOption (fun n : UInt64 => .int n.toNat) c.limit) := by
    cases c.limit with
    | none => exact .null
    | some n => exact .natCast n.toNat_lt
  exact .object ⟨.str _, .array fun _ => .object ⟨.str _, .str _, .str _, .str _⟩,
    .array fun _ => .object ⟨.str _, .str _⟩, .array fun _ => .object ⟨.str _, .str _, .str _⟩,
    limit⟩

end Exact

/-- A double that is no number would be written as null. -/
structure CanonicalRecord.Whole (r : CanonicalRecord) : Prop where
  latitude : r.latitude.isFinite = true
  longitude : r.longitude.isFinite = true

theorem CanonicalRecord.read_toJson {r : CanonicalRecord} (whole : r.Whole) :
    read r.toJson = .ok r := by
  apply readShape_written
  simp only [Fields.required]
  rw [Fields.field_written "id" rfl (readString_str r.id),
    Fields.field_written "full_address" rfl (readString_str r.fullAddress),
    Fields.field_written "latitude" rfl (readBinary64_of_finite whole.latitude),
    Fields.field_written "longitude" rfl (readBinary64_of_finite whole.longitude)]
  rfl

structure ValidationResult.Whole (r : ValidationResult) : Prop where
  geoLat : r.geoLat.isFinite = true
  geoLng : r.geoLng.isFinite = true
  fieldLat : r.fieldLat.isFinite = true
  fieldLng : r.fieldLng.isFinite = true
  distanceKm : r.distanceKm.isFinite = true

/-- There is an entry for an error only if there is one; without it the error has its default. -/
theorem ValidationResult.read_toJson {r : ValidationResult} (whole : r.Whole) :
    read r.toJson = .ok r := by
  obtain ⟨id, address, geoLat, geoLng, fieldLat, fieldLng, distance, level, provider, error⟩ := r
  have text : ∀ e, readOption readString (Json.str e) = .ok (some e) := fun _ => rfl
  apply readShape_written
  simp only [Fields.required, Fields.withDefault]
  cases error
  all_goals
    rw [Fields.field_written "id" rfl (readString_str id),
      Fields.field_written "system_address" rfl (readString_str address),
      Fields.field_written "geo_lat" rfl (readBinary64_of_finite whole.geoLat),
      Fields.field_written "geo_lng" rfl (readBinary64_of_finite whole.geoLng),
      Fields.field_written "field_lat" rfl (readBinary64_of_finite whole.fieldLat),
      Fields.field_written "field_lng" rfl (readBinary64_of_finite whole.fieldLng),
      Fields.field_written "distance_km" rfl (readBinary64_of_finite whole.distanceKm),
      Fields.field_written "accuracy_level" rfl (readString_str level),
      Fields.field_written "provider" rfl (readString_str provider)]
  · rw [Fields.field_unwritten "error" rfl]
    rfl
  · rw [Fields.field_written "error" rfl (text _)]
    rfl

structure CoordinatePoint.Whole (p : CoordinatePoint) : Prop where
  latitude : p.latitude.isFinite = true
  longitude : p.longitude.isFinite = true
  metadata : Json.Ascending p.metadata

theorem CoordinatePoint.read_toJson {p : CoordinatePoint} (whole : p.Whole) :
    read p.toJson = .ok p := by
  have timestamp := readOption_of readString_str nofun p.timestamp
  apply readShape_written
  simp only [Fields.required, Fields.withDefault]
  rw [Fields.field_written "latitude" rfl (readBinary64_of_finite whole.latitude),
    Fields.field_written "longitude" rfl (readBinary64_of_finite whole.longitude),
    Fields.field_written "timestamp" rfl timestamp,
    Fields.field_written "metadata" rfl (readMap_obj whole.metadata)]
  rfl

def CoordinatePayload.Whole (p : CoordinatePayload) : Prop := ∀ point ∈ p.points, point.Whole

theorem CoordinatePayload.read_toJson {p : CoordinatePayload} (whole : p.Whole) :
    read p.toJson = .ok p := by
  have points : readList CoordinatePoint.read (Json.arr (p.points.map CoordinatePoint.toJson)) =
      .ok p.points := readList_arr fun point mem => CoordinatePoint.read_toJson (whole point mem)
  apply readShape_written
  simp only [Fields.required, Fields.withDefault]
  rw [Fields.field_written "batch_id" rfl (readString_str p.batchId),
    Fields.field_written "points" rfl points]
  rfl

section Sound

variable {δ : Type} [Document δ] {holds : δ → Prop} (regular : Document.Regular holds) {d : δ}
  (held : holds d)

include regular

/-- A double is finite wherever a default for it is. -/
theorem Fields.isFinite_of_value {fs : Fields δ} {index : Nat} {name : String}
    {absent : Option Binary64} {x : Binary64} (all : fs.source.All holds)
    (default : absent.all Binary64.isFinite = true)
    (value : fs.field index name readBinary64 absent = .value x) : x.isFinite = true := by
  rcases Fields.value_cases all value with given | ⟨d, held, reads⟩
  · rw [given] at default
    exact default
  · exact readBinary64_isFinite regular held reads

include held

theorem CanonicalRecord.whole_of_read {r : CanonicalRecord} (reads : read d = .ok r) :
    r.Whole := by
  obtain ⟨source, all, built⟩ := readShape_value regular held reads
  simp only [Fields.required, Reading.seq_eq_value_iff, Reading.map_eq_value_iff] at built
  obtain ⟨_, longitude, ⟨_, latitude, ⟨_, address, ⟨id, _, rfl⟩, _, rfl⟩, latValue, rfl⟩,
    lngValue, rfl⟩ := built
  exact ⟨Fields.isFinite_of_value regular all rfl latValue,
    Fields.isFinite_of_value regular all rfl lngValue⟩

theorem ValidationResult.whole_of_read {r : ValidationResult} (reads : read d = .ok r) :
    r.Whole := by
  obtain ⟨source, all, built⟩ := readShape_value regular held reads
  simp only [Fields.required, Fields.withDefault, Reading.seq_eq_value_iff,
    Reading.map_eq_value_iff] at built
  obtain ⟨_, error, ⟨_, provider, ⟨_, level, ⟨_, distance, ⟨_, fieldLng, ⟨_, fieldLat, ⟨_, geoLng,
    ⟨_, geoLat, ⟨_, address, ⟨id, _, rfl⟩, _, rfl⟩, geoLatValue, rfl⟩, geoLngValue, rfl⟩,
    fieldLatValue, rfl⟩, fieldLngValue, rfl⟩, distanceValue, rfl⟩, _, rfl⟩, _, rfl⟩, _, rfl⟩ :=
    built
  exact {
    geoLat := Fields.isFinite_of_value regular all rfl geoLatValue
    geoLng := Fields.isFinite_of_value regular all rfl geoLngValue
    fieldLat := Fields.isFinite_of_value regular all rfl fieldLatValue
    fieldLng := Fields.isFinite_of_value regular all rfl fieldLngValue
    distanceKm := Fields.isFinite_of_value regular all rfl distanceValue }

theorem CoordinatePoint.whole_of_read {p : CoordinatePoint} (reads : read d = .ok p) :
    p.Whole := by
  obtain ⟨source, all, built⟩ := readShape_value regular held reads
  simp only [Fields.required, Fields.withDefault, Reading.seq_eq_value_iff,
    Reading.map_eq_value_iff] at built
  obtain ⟨_, metadata, ⟨_, timestamp, ⟨_, longitude, ⟨latitude, latValue, rfl⟩, lngValue, rfl⟩, _,
    rfl⟩, mapValue, rfl⟩ := built
  have ascending : Json.Ascending metadata := by
    rcases Fields.value_cases all mapValue with given | ⟨d, -, readsMap⟩
    · cases given
      exact List.Pairwise.nil
    · exact ascending_of_readMap readsMap
  exact ⟨Fields.isFinite_of_value regular all rfl latValue,
    Fields.isFinite_of_value regular all rfl lngValue, ascending⟩

theorem CoordinatePayload.whole_of_read {p : CoordinatePayload} (reads : read d = .ok p) :
    p.Whole := by
  obtain ⟨source, all, built⟩ := readShape_value regular held reads
  simp only [Fields.required, Fields.withDefault, Reading.seq_eq_value_iff,
    Reading.map_eq_value_iff] at built
  obtain ⟨_, points, ⟨batchId, _, rfl⟩, pointsValue, rfl⟩ := built
  intro point mem
  rcases Fields.value_cases all pointsValue with given | ⟨list, heldList, readsList⟩
  · cases given
  · obtain ⟨item, heldItem, readsItem⟩ :=
      exists_of_readList regular heldList readsList point mem
    exact CoordinatePoint.whole_of_read regular heldItem readsItem

end Sound

/-- The reader and the writer of each type agree: on the values whose doubles are finite, and on
everything that is read from a document or a raw text. So a value that was read once is the same
after any number of writings and readings, and the types without doubles also come back from their
texts. -/
theorem codecs_faithful :
    Faithful (fun _ => True) DataSource.toJson DataSource.read ∧
    Faithful (fun _ => True) Pipeline.toJson Pipeline.read ∧
    Faithful (fun _ => True) PipelineConfig.toJson PipelineConfig.read ∧
    Faithful CanonicalRecord.Whole CanonicalRecord.toJson CanonicalRecord.read ∧
    Faithful ValidationResult.Whole ValidationResult.toJson ValidationResult.read ∧
    Faithful (fun _ => True) IngestReceipt.toJson IngestReceipt.read ∧
    Faithful (fun _ => True) JobKey.toJson JobKey.read ∧
    Faithful CoordinatePayload.Whole CoordinatePayload.toJson CoordinatePayload.read ∧
    (∀ s : DataSource, s.toJson.Exact) ∧ (∀ c : PipelineConfig, c.toJson.Exact) ∧
    (∀ r : IngestReceipt, r.toJson.Exact) ∧ (∀ k : JobKey, k.toJson.Exact) ∧
    ∀ p : Pipeline, Json.Proper (fun _ => False) (Json.depthLimit - 1) p.config →
      p.toJson.Exact := by
  refine ⟨.of_total DataSource.read_toJson, .of_total Pipeline.read_toJson,
    .of_total PipelineConfig.read_toJson, ?_, ?_, .of_total IngestReceipt.read_toJson,
    .of_total JobKey.read_toJson, ?_, DataSource.exact_toJson, PipelineConfig.exact_toJson,
    IngestReceipt.exact_toJson, JobKey.exact_toJson, fun _ => Pipeline.exact_toJson⟩
  · apply Faithful.of_sound
    · intro r whole
      exact CanonicalRecord.read_toJson whole
    · intro δ _ holds regular d r held reads
      exact CanonicalRecord.whole_of_read regular held reads
  · apply Faithful.of_sound
    · intro r whole
      exact ValidationResult.read_toJson whole
    · intro δ _ holds regular d r held reads
      exact ValidationResult.whole_of_read regular held reads
  · apply Faithful.of_sound
    · intro p whole
      exact CoordinatePayload.read_toJson whole
    · intro δ _ holds regular d p held reads
      exact CoordinatePayload.whole_of_read regular held reads

end Geoflow
