import Geoflow.Proofs.Json.Codec
import Geoflow.Proofs.Settings.Variable
import Geoflow.Settings.Load

set_option autoImplicit false

namespace Geoflow

section Entries

variable {α : Type} {entries : List (String × α)} {name : String}

theorem entriesOf_eq_nil (unlisted : entries.lookup name = none) (start : Nat) :
    entriesOf name start entries = [] := by
  induction entries generalizing start with
  | nil => rfl
  | cons entry rest ih =>
    obtain ⟨other, d⟩ := entry
    rw [Json.lookup_cons_eq_ite] at unlisted
    by_cases same : name = other
    · rw [if_pos same] at unlisted
      cases unlisted
    · rw [if_neg same] at unlisted
      rw [entriesOf, if_neg (Ne.symm same), ih unlisted]

theorem lookup_of_entriesOf {start place : Nat} {d : α} {more : List (Nat × α)}
    (found : entriesOf name start entries = (place, d) :: more) : entries.lookup name = some d := by
  induction entries generalizing start with
  | nil => cases found
  | cons entry rest ih =>
    obtain ⟨other, kept⟩ := entry
    rw [entriesOf] at found
    rw [Json.lookup_cons_eq_ite]
    by_cases same : name = other
    · rw [if_pos same.symm] at found
      rw [if_pos same]
      cases found
      rfl
    · rw [if_neg (Ne.symm same)] at found
      rw [if_neg same, ih found]

/-- A new name has one entry, however the others are ordered. -/
theorem entriesOf_insertEntry (unlisted : entries.lookup name = none) (d : α) (start : Nat) :
    ∃ place, entriesOf name start (Json.insertEntry name d entries) = [(place, d)] := by
  induction entries generalizing start with
  | nil => exact ⟨start, by simp [Json.insertEntry, entriesOf]⟩
  | cons entry rest ih =>
    obtain ⟨other, kept⟩ := entry
    have nothing := entriesOf_eq_nil unlisted
    rw [Json.lookup_cons_eq_ite] at unlisted
    by_cases same : name = other
    · rw [if_pos same] at unlisted
      cases unlisted
    · rw [if_neg same] at unlisted
      rw [Json.insertEntry]
      by_cases before : name < other
      · exact ⟨start, by rw [if_pos before, entriesOf, if_pos rfl, nothing]⟩
      · rw [if_neg before, if_neg same, entriesOf, if_neg (Ne.symm same)]
        exact ih unlisted (start + 1)

end Entries

/-- A field that must be there is read from the entry of its name. -/
theorem exists_of_required {δ α : Type} {entries : List (String × δ)} {shape name : String}
    {count index : Nat} {read : δ → Except ReadError α} {a : α}
    (field : Fields.required ⟨shape, count, .named entries⟩ index name read = .value a) :
    ∃ d, entries.lookup name = some d ∧ read d = .ok a := by
  rw [Fields.required, Fields.field] at field
  dsimp only at field
  split at field
  · cases field
  · rename_i place d single
    refine ⟨d, lookup_of_entriesOf single, ?_⟩
    cases outcome : read d with
    | ok b =>
      rw [outcome] at field
      cases field
      rfl
    | error fault =>
      rw [outcome] at field
      cases field
  · split at field <;> cases field

variable {home : Option String} {s : Settings} {key : String} {d : Json}
  {entries entries' : List (String × Json)}

theorem readString_eq_ok_iff {text : String} : readString d = .ok text ↔ d = .str text := by
  cases d <;> simp [readString, Document.view]

theorem exists_mismatch_of_readString {error : ReadError} (read : readString d = .error error) :
    ∃ found, error = .invalidType found "a string" := by
  cases d <;> cases read <;> exact ⟨_, rfl⟩

theorem SecuritySettings.read_insertEntry (unlisted : entries.lookup "aes_key" = none) (v : Json) :
    SecuritySettings.read (Json.obj (Json.insertEntry "aes_key" v entries)) =
      (readString v).map SecuritySettings.mk := by
  obtain ⟨place, single⟩ := entriesOf_insertEntry unlisted v 0
  change Reading.toExcept
    (SecuritySettings.mk <$> Fields.required ⟨_, _, .named _⟩ 0 "aes_key" readString) = _
  rw [Fields.required, Fields.field]
  dsimp only
  rw [single]
  dsimp only
  cases readString v <;> rfl

theorem SecuritySettings.aesKey_of_read {security : SecuritySettings}
    (read : SecuritySettings.read d = .ok security) (held : d.get? "aes_key" = some (.str key)) :
    security.aesKey = key := by
  cases d with
  | obj entries =>
    replace read := Reading.toExcept_eq_ok_iff.mp read
    obtain ⟨text, field, rfl⟩ := Reading.map_eq_value_iff.mp read
    obtain ⟨v, looked, reads⟩ := exists_of_required field
    rw [Json.get?, looked] at held
    cases held
    cases reads
    rfl
  | _ => cases held

theorem Reading.Alike.eq_value {δ α : Type} {d d' : List (String × δ)} {r r' : Reading α} {a : α}
    (alike : Alike d d' r r') (value : r = .value a) : r' = .value a := by
  cases alike with
  | value b => exact value
  | fault => cases value

namespace Settings

/-- The sections without the key. -/
def otherSections : List String := ["database", "extract", "sync", "validation"]

/-- Settings that can be read stay as they are in all but the key if only the section of the key
changes. -/
theorem read_of_agree (ascending : Json.Ascending entries) (ascending' : Json.Ascending entries')
    (agree : Json.AgreeOn otherSections entries entries')
    (reads : Settings.read home (Json.obj entries) = .ok s)
    (found : entries'.lookup "security" = some d) :
    Settings.read home (Json.obj entries') =
      (SecuritySettings.read d).map fun security => { s with security } := by
  have field {α : Type} := @Reading.alike_withDefault Json α entries entries' ascending ascending'
    _ agree "struct GeoEtlConfig" 5
  replace reads := Reading.toExcept_eq_ok_iff.mp reads
  simp only [Reading.seq_eq_value_iff, Reading.map_eq_value_iff] at reads
  obtain ⟨_, validation, ⟨_, sync, ⟨_, extract, ⟨_, database, ⟨security, -, rfl⟩, readDatabase,
    rfl⟩, readExtract, rfl⟩, readSync, rfl⟩, readValidation, rfl⟩ := reads
  have database' := (field 1 "database" (by decide) _ _).eq_value readDatabase
  have extract' := (field 2 "extract" (by decide) _ _).eq_value readExtract
  have sync' := (field 3 "sync" (by decide) _ _).eq_value readSync
  have validation' := (field 4 "validation" (by decide) _ _).eq_value readValidation
  rcases ascending'.entriesOf_cases "security" 0 with ⟨none, -⟩ | ⟨place, d', -, some, single⟩
  · rw [found] at none
    cases none
  · rw [found] at some
    cases some
    have security' : Fields.required ⟨"struct GeoEtlConfig", 5, .named entries'⟩ 0 "security"
        SecuritySettings.read = placeAt (0 + place) (SecuritySettings.read d) := by
      rw [Fields.required, Fields.field]
      dsimp only
      rw [single]
    change Reading.toExcept (Settings.mk <$> _ <*> _ <*> _ <*> _ <*> _) = _
    rw [database', extract', sync', validation', security']
    cases SecuritySettings.read d <;> rfl

def keyPath : List String := ["security", "aes_key"]

def keyVariable : String := "GEOETL_SECURITY__AES_KEY"

def layer? : Option String → Option Json
  | none => some (.obj [])
  | some text => Toml.read? text

/-- No variable is about settings. -/
def Foreign (env : Environment) : Prop := ∀ entry ∈ env, pathOf? entry.1 = none

theorem exists_entries_of_layer? {file : Option String} (read : layer? file = some d) :
    ∃ entries, d = .obj entries ∧ Json.Ascending entries := by
  cases file with
  | none =>
    cases read
    exact ⟨[], rfl, List.Pairwise.nil⟩
  | some text =>
    obtain ⟨draft, -, rfl⟩ := Option.map_eq_some_iff.mp read
    exact ⟨_, rfl, Json.ascending_sortEntries _⟩

theorem load_eq {file : Option String} (read : layer? file = some d) (env : Environment) :
    load home file env = ((Settings.read home (d.overlay (ofEnvironment env))).mapError
      .unreadable >>= fun s => s.check.mapError .refused) := by
  unfold load
  cases file with
  | none =>
    cases read
    rfl
  | some text =>
    rw [layer?] at read
    dsimp only
    rw [read]
    rfl

def overlayVariable (layer : Json) (entry : String × String) : Json :=
  match pathOf? entry.1 with
  | some path => layer.overlay (nested path (Variable.read entry.2))
  | none => layer

theorem ofEnvironment_eq (env : Environment) :
    ofEnvironment env = env.foldl overlayVariable (.obj []) := rfl

theorem foldl_foreign {env : Environment} (foreign : Foreign env) (layer : Json) :
    env.foldl overlayVariable layer = layer := by
  induction env with
  | nil => rfl
  | cons entry env ih =>
    obtain ⟨first, others⟩ := List.forall_mem_cons.mp foreign
    rw [List.foldl_cons, overlayVariable, first]
    exact ih others

theorem ofEnvironment_foreign {env : Environment} (foreign : Foreign env) :
    ofEnvironment env = .obj [] :=
  foldl_foreign foreign _

theorem pathOf?_keyVariable : pathOf? keyVariable = some keyPath := by decide +kernel

theorem ofEnvironment_key {before after : Environment} (foreign : Foreign (before ++ after))
    (key : String) : ofEnvironment (before ++ (keyVariable, key) :: after) =
      nested keyPath (Variable.read key) := by
  obtain ⟨foreignBefore, foreignAfter⟩ := List.forall_mem_append.mp foreign
  rw [ofEnvironment_eq, List.foldl_append, foldl_foreign foreignBefore, List.foldl_cons,
    overlayVariable, pathOf?_keyVariable, foldl_foreign foreignAfter]
  rfl

theorem overlay_nil (entries : List (String × Json)) :
    (Json.obj entries).overlay (.obj []) = .obj entries := by
  rw [Json.overlay, Json.overlayEntries]

/-- Over a layer without the key, the key gets a place in the section that is there. -/
theorem exists_overlay_key
    (absent : ((Json.obj entries).get? "security").bind (Json.get? "aes_key") = none) (v : Json) :
    ∃ rest, rest.lookup "aes_key" = none ∧ (Json.obj entries).overlay (nested keyPath v) =
      .obj (Json.insertEntry "security" (.obj (Json.insertEntry "aes_key" v rest)) entries) := by
  rw [keyPath, nested, nested, nested, Json.overlay, Json.overlayEntries, Json.overlayEntries]
  rw [Json.get?] at absent
  cases inFile : entries.lookup "security" with
  | none => exact ⟨[], rfl, rfl⟩
  | some below =>
    rw [inFile, Option.bind_some] at absent
    cases below with
    | obj rest =>
      have unlisted : rest.lookup "aes_key" = none := absent
      refine ⟨rest, unlisted, ?_⟩
      dsimp only
      rw [Json.overlay, Json.overlayEntries, Json.overlayEntries, unlisted]
    -- What is no object is replaced as a whole.
    | _ => exact ⟨[], rfl, rfl⟩

/-- Two layers with the same settings but for the key: the first one has it, the second one has
none. -/
structure MovesKey (d d' : Json) (key : String) : Prop where
  held : (d.get? "security").bind (Json.get? "aes_key") = some (.str key)
  absent : (d'.get? "security").bind (Json.get? "aes_key") = none
  others : ∀ name ∈ otherSections, d.get? name = d'.get? name

/-- The key is refused: what the variable says is no text, or a text that is too short. -/
inductive RefusesKey : LoadError → Prop
  | noText (found : Found) : RefusesKey (.unreadable (.invalidType found "a string"))
  | short {n : Nat} (few : n < keyLength) : RefusesKey (.refused (.keyLength n))

theorem eq_of_check {t : Settings} (checked : s.check = .ok t) : t = s := by
  rw [check] at checked
  split at checked
  · cases checked
  · cases checked
    rfl

theorem check_of_length (length : s.security.aesKey.utf8ByteSize ≠ keyLength) :
    s.check = .error (.keyLength s.security.aesKey.utf8ByteSize) := by
  rw [check, fault?, if_pos length]

section Moved

variable {file file' : Option String} {d' : Json} {before after : Environment}
  (layer : layer? file = some d) (layer' : layer? file' = some d') (moves : MovesKey d d' key)
  (foreign : Foreign (before ++ after)) (loaded : load home file (before ++ after) = .ok s)

include layer foreign loaded

theorem read_of_loaded : Settings.read home d = .ok s ∧ s.check = .ok s := by
  obtain ⟨entries, rfl, -⟩ := exists_entries_of_layer? layer
  rw [load_eq layer, ofEnvironment_foreign foreign, overlay_nil] at loaded
  obtain ⟨t, read, checked⟩ := bind_eq_ok_iff.mp loaded
  replace read := eq_ok_of_mapError read
  replace checked := eq_ok_of_mapError checked
  rw [eq_of_check checked]
  exact ⟨read, by rwa [eq_of_check checked] at checked⟩

include moves

theorem aesKey_of_loaded : s.security.aesKey = key := by
  obtain ⟨entries, rfl, -⟩ := exists_entries_of_layer? layer
  obtain ⟨read, -⟩ := read_of_loaded layer foreign loaded
  obtain ⟨v, looked, held⟩ := Option.bind_eq_some_iff.mp moves.held
  replace read := Reading.toExcept_eq_ok_iff.mp read
  simp only [Reading.seq_eq_value_iff, Reading.map_eq_value_iff] at read
  obtain ⟨_, _, ⟨_, _, ⟨_, _, ⟨_, _, ⟨security, readSecurity, rfl⟩, -, rfl⟩, -, rfl⟩, -, rfl⟩, -,
    rfl⟩ := read
  obtain ⟨v', looked', reads⟩ := exists_of_required readSecurity
  rw [Json.get?, looked'] at looked
  cases looked
  exact SecuritySettings.aesKey_of_read reads held

include layer'

/-- All that a variable with the key does: what it says is read as a text, which becomes the key of
the settings that were loaded before. -/
theorem load_key : load home file' (before ++ (keyVariable, key) :: after) =
    ((readString (Variable.read key)).mapError .unreadable >>= fun text =>
      ({ s with security := ⟨text⟩ } : Settings).check.mapError .refused) := by
  obtain ⟨read, -⟩ := read_of_loaded layer foreign loaded
  obtain ⟨entries, rfl, ascending⟩ := exists_entries_of_layer? layer
  obtain ⟨entries', rfl, ascending'⟩ := exists_entries_of_layer? layer'
  obtain ⟨rest, unlisted, overlaid⟩ := exists_overlay_key moves.absent (Variable.read key)
  generalize inserted : Json.obj (Json.insertEntry "aes_key" (Variable.read key) rest) = security
    at overlaid
  have agree : Json.AgreeOn otherSections entries
      (Json.insertEntry "security" security entries') := by
    intro name listed
    have apart : name ≠ "security" := by
      rintro rfl
      exact absurd listed (by decide)
    rw [Json.lookup_insertEntry, if_neg apart]
    exact moves.others name listed
  have found : (Json.insertEntry "security" security entries').lookup "security" =
      some security := by
    rw [Json.lookup_insertEntry, if_pos rfl]
  rw [load_eq layer', ofEnvironment_key foreign, overlaid,
    read_of_agree ascending (ascending'.insertEntry _ _) agree read found, ← inserted,
    SecuritySettings.read_insertEntry unlisted]
  cases readString (Variable.read key) <;> rfl

theorem load_of_not_isRecast (plain : ¬ Variable.IsRecast key) :
    load home file' (before ++ (keyVariable, key) :: after) = .ok s := by
  obtain ⟨-, passed⟩ := read_of_loaded layer foreign loaded
  have same := aesKey_of_loaded layer moves foreign loaded
  have kept : ({ s with security := ⟨key⟩ } : Settings) = s := by rw [← same]
  rw [load_key layer layer' moves foreign loaded, (Variable.read_eq_str_iff key).mpr plain]
  change ({ s with security := ⟨key⟩ } : Settings).check.mapError LoadError.refused = _
  rw [kept, passed]
  rfl

theorem exists_refusal_of_isRecast (recast : Variable.IsRecast key) : ∃ error,
    load home file' (before ++ (keyVariable, key) :: after) = .error error ∧ RefusesKey error := by
  rw [load_key layer layer' moves foreign loaded]
  cases reading : readString (Variable.read key) with
  | error mismatch =>
    obtain ⟨found, rfl⟩ := exists_mismatch_of_readString reading
    exact ⟨_, rfl, .noText found⟩
  | ok text =>
    have value := readString_eq_ok_iff.mp reading
    have means := Variable.means_of_isRecast recast
    have other : text ≠ key := by
      rintro rfl
      exact (Variable.read_eq_str_iff _).mp value recast
    rw [value] at means
    have shorter := means.octets_lt (mt String.toList_inj.mp other)
    rw [Utf8.octets_toList, Utf8.octets_toList] at shorter
    obtain ⟨-, passed⟩ := read_of_loaded layer foreign loaded
    have length : key.utf8ByteSize = keyLength := by
      by_contra off
      rw [← aesKey_of_loaded layer moves foreign loaded] at off
      rw [check_of_length off] at passed
      cases passed
    have few : text.utf8ByteSize < keyLength := by omega
    refine ⟨.refused (.keyLength text.utf8ByteSize), ?_, .short few⟩
    change ({ s with security := ⟨text⟩ } : Settings).check.mapError LoadError.refused = _
    rw [check_of_length (Nat.ne_of_lt few)]
    rfl

end Moved

/-- A key that a file may hold is the same from a variable, with all other settings, exactly if its
text has no other form. Otherwise the settings are refused, so no other key is ever loaded. -/
theorem key_from_variable_iff {file file' : Option String} {d' : Json} {before after : Environment}
    (layer : layer? file = some d) (layer' : layer? file' = some d') (moves : MovesKey d d' key)
    (foreign : Foreign (before ++ after)) (loaded : load home file (before ++ after) = .ok s) :
    s.security.aesKey = key ∧
      (load home file' (before ++ (keyVariable, key) :: after) = .ok s ↔ ¬ Variable.IsRecast key) ∧
      (Variable.IsRecast key → ∃ error,
        load home file' (before ++ (keyVariable, key) :: after) = .error error ∧
          RefusesKey error) := by
  have refusal := exists_refusal_of_isRecast layer layer' moves foreign loaded
  refine ⟨aesKey_of_loaded layer moves foreign loaded, ?_, refusal⟩
  constructor
  · intro success recast
    obtain ⟨error, failed, -⟩ := refusal recast
    rw [success] at failed
    cases failed
  · exact load_of_not_isRecast layer layer' moves foreign loaded

def ofKey (home : Option String) (key : String) : Settings where
  security := ⟨key⟩
  database := ⟨defaultDatabasePath home⟩
  extract := {}
  sync := {}
  validation := {}

def fileOfKey (key : String) : String := "[security]\naes_key = \"" ++ key ++ "\"\n"

/-- A key of digits alone, which are too many for a number. -/
def digitsKey : String := "12345678901234567890123456789012"

theorem key_from_variable_iff_digits :
    load none (some (fileOfKey digitsKey)) [("PATH", "/bin")] = .ok (ofKey none digitsKey) ∧
      ¬ Variable.IsRecast digitsKey := by
  have loaded : load none (some (fileOfKey digitsKey)) [("PATH", "/bin")] =
      .ok (ofKey none digitsKey) := by decide +kernel
  have fromVariable : load none none [("PATH", "/bin"), (keyVariable, digitsKey)] =
      .ok (ofKey none digitsKey) := by decide +kernel
  have foreign : Foreign ([("PATH", "/bin")] ++ []) := by
    unfold Foreign
    decide +kernel
  have inFile : ((layer? (some (fileOfKey digitsKey))).bind fun d =>
      (d.get? "security").bind (Json.get? "aes_key")).map readString = some (.ok digitsKey) := by
    decide +kernel
  have alone : ∀ name ∈ otherSections,
      (layer? (some (fileOfKey digitsKey))).bind (Json.get? name) = none := by decide +kernel
  obtain ⟨v, found, reads⟩ := Option.map_eq_some_iff.mp inFile
  obtain ⟨d, layer, held⟩ := Option.bind_eq_some_iff.mp found
  rw [readString_eq_ok_iff.mp reads] at held
  simp only [layer, Option.bind_some] at alone
  have moves : MovesKey d (.obj []) digitsKey := ⟨held, rfl, alone⟩
  have noFile : layer? none = some (.obj []) := rfl
  have same := key_from_variable_iff layer noFile moves foreign loaded
  exact ⟨loaded, same.2.1.mp fromVariable⟩

/-- A number with a point is a key in a file and none in a variable. -/
theorem numeral_is_key_in_file_only :
    load none (some (fileOfKey "3.141592653589793238462643383279")) [] =
        .ok (ofKey none "3.141592653589793238462643383279") ∧
      load none none [(keyVariable, "3.141592653589793238462643383279")] =
        .error (.unreadable (.invalidType
          (.float (.ofRatio false 3141592653589793238462643383279 (10 ^ 30))) "a string")) := by
  decide +kernel

end Settings

end Geoflow
