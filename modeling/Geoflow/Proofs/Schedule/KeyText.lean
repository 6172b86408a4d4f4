import Geoflow.Proofs.Binary64.Literal
import Geoflow.Proofs.Json.Codec
import Geoflow.Proofs.Schedule.JobKey

set_option autoImplicit false

namespace Geoflow

/-- The text is digits behind a sign that may be left out, with any zeros in front, and stands for
the number. -/
def Numeral.StandsFor (cs : List Char) (i : Int) : Prop :=
  ∃ sign digits, cs = Decimal.Sign.chars sign ++ digits ∧ digits ≠ [] ∧
    (∀ c ∈ digits, isDigit c = true) ∧
    i = if sign.isMinus then -(value digits : Int) else value digits

theorem Numeral.readInt?_eq_some_iff {cs : List Char} {i : Int} :
    readInt? cs = some i ↔ StandsFor cs i := by
  constructor
  · exact Decimal.exists_of_readInt?
  · rintro ⟨sign, digits, rfl, nonempty, allDigits, rfl⟩
    exact Decimal.readInt?_signed allDigits nonempty

namespace JobKey

def InRange (i : Int) : Prop := -2 ^ 63 ≤ i ∧ i < 2 ^ 63

def stem : JobKey → List Char
  | pipeline _ => pipelineStem
  | sync _ => syncStem

/-- A text that stands for a key: its stem, and any numeral of its number. -/
def Names (s : String) (k : JobKey) : Prop :=
  ∃ numeral, s.toList = k.stem ++ numeral ∧ Numeral.StandsFor numeral k.id.toInt

variable {stem cs numeral : List Char} {i : Int} {id : Int64} {s : String} {k : JobKey}

theorem inRange_toInt (id : Int64) : InRange id.toInt := ⟨Int64.le_toInt id, Int64.toInt_lt id⟩

theorem readId?_eq (cs : List Char) : readId? cs = (Numeral.readInt? cs).bind fun i =>
    if Int64.minValue.toInt ≤ i ∧ i ≤ Int64.maxValue.toInt then some (Int64.ofInt i) else none := by
  rw [readId?]
  cases Numeral.readInt? cs <;> rfl

theorem readId?_of_standsFor (stands : Numeral.StandsFor cs i) (inRange : InRange i) :
    readId? cs = some (Int64.ofInt i) := by
  obtain ⟨least, most⟩ := inRange
  rw [readId?_eq, Numeral.readInt?_eq_some_iff.mpr stands, Option.bind_some, Int64.toInt_minValue,
    Int64.toInt_maxValue, if_pos ⟨least, Int.le_sub_one_of_lt most⟩]

theorem readId?_of_not_inRange (stands : Numeral.StandsFor cs i) (outside : ¬ InRange i) :
    readId? cs = none := by
  rw [readId?_eq, Numeral.readInt?_eq_some_iff.mpr stands, Option.bind_some, Int64.toInt_minValue,
    Int64.toInt_maxValue, if_neg]
  rintro ⟨least, most⟩
  exact outside ⟨least, Int.lt_of_le_sub_one most⟩

theorem readId?_eq_some_iff : readId? cs = some id ↔ Numeral.StandsFor cs id.toInt := by
  constructor
  · intro read
    have numeral := read
    rw [readId?_eq] at numeral
    obtain ⟨i, stands, -⟩ := Option.bind_eq_some_iff.mp numeral
    have stands := Numeral.readInt?_eq_some_iff.mp stands
    by_cases inRange : InRange i
    · rw [readId?_of_standsFor stands inRange] at read
      rwa [← Option.some.inj read, Int64.toInt_ofInt_of_le inRange.1 inRange.2]
    · rw [readId?_of_not_inRange stands inRange] at read
      cases read
  · intro stands
    rw [readId?_of_standsFor stands (inRange_toInt id), Int64.ofInt_toInt]

theorem afterStem?_append (stem rest : List Char) : afterStem? stem (stem ++ rest) = some rest := by
  rw [afterStem?, if_pos (List.isPrefixOf_iff_prefix.mpr (List.prefix_append stem rest)),
    List.drop_left]

theorem afterStem?_eq_some_iff : afterStem? stem cs = some numeral ↔ cs = stem ++ numeral := by
  constructor
  · intro after
    rw [afterStem?] at after
    split at after
    next front =>
      cases after
      exact (List.prefix_iff_eq_append.mp (List.isPrefixOf_iff_prefix.mp front)).symm
    next => cases after
  · rintro rfl
    exact afterStem?_append stem numeral

def kinds : List (List Char × (Int64 → JobKey)) := [(pipelineStem, pipeline), (syncStem, sync)]

theorem exists_kind (k : JobKey) : ∃ make, (k.stem, make) ∈ kinds ∧ make k.id = k := by
  cases k with
  | pipeline id => exact ⟨pipeline, List.mem_cons_self, rfl⟩
  | sync id => exact ⟨sync, List.mem_cons_of_mem _ List.mem_cons_self, rfl⟩

theorem exists_mem_kinds (isStem : stem = "pipeline-".toList ∨ stem = "erp-".toList) :
    ∃ make, (stem, make) ∈ kinds := by
  rcases isStem with rfl | rfl
  · exact ⟨pipeline, List.mem_cons_self⟩
  · exact ⟨sync, List.mem_cons_of_mem _ List.mem_cons_self⟩

theorem stem_and_id_of_mem_kinds {make : Int64 → JobKey} (kind : (stem, make) ∈ kinds)
    (id : Int64) : (make id).stem = stem ∧ (make id).id = id := by
  rw [kinds, List.mem_pair] at kind
  rcases kind with same | same <;> cases same <;> exact ⟨rfl, rfl⟩

/-- The stems differ in their first letter, so at most one of them is found. -/
theorem ofText_of_stem {make : Int64 → JobKey} (kind : (stem, make) ∈ kinds)
    (front : s.toList = stem ++ numeral) :
    ofText s = (readId? numeral).elim (.error (.invalidId s)) fun id => .ok (make id) := by
  have other (rest : List Char) : afterStem? pipelineStem (syncStem ++ rest) = none := rfl
  rw [kinds, List.mem_pair] at kind
  rcases kind with same | same <;> cases same
  · simp only [ofText, front, afterStem?_append]
    cases readId? numeral <;> rfl
  · simp only [ofText, front, other, afterStem?_append]
    cases readId? numeral <;> rfl

theorem ofText_of_no_stem (unlike : ∀ kind ∈ kinds, ∀ numeral, s.toList ≠ kind.1 ++ numeral) :
    ofText s = .error (.unknown s) := by
  have misses : ∀ kind ∈ kinds, afterStem? kind.1 s.toList = none := fun kind mem =>
    Option.eq_none_iff_forall_ne_some.mpr fun numeral after =>
      unlike kind mem numeral (afterStem?_eq_some_iff.mp after)
  rw [ofText, misses _ List.mem_cons_self,
    misses _ (List.mem_cons_of_mem _ List.mem_cons_self)]

/-- All that reading a text can do. -/
theorem ofText_cases (s : String) : (∃ k, ofText s = .ok k ∧ Names s k) ∨
    ofText s = .error (.invalidId s) ∨ ofText s = .error (.unknown s) := by
  by_cases known : ∃ kind ∈ kinds, ∃ numeral, s.toList = kind.1 ++ numeral
  · obtain ⟨⟨stem, make⟩, kind, numeral, front⟩ := known
    rw [ofText_of_stem kind front]
    cases number : readId? numeral with
    | none => exact Or.inr (Or.inl rfl)
    | some id =>
      obtain ⟨sameStem, sameId⟩ := stem_and_id_of_mem_kinds kind id
      refine Or.inl ⟨make id, rfl, numeral, by rw [sameStem, front], ?_⟩
      rw [sameId]
      exact readId?_eq_some_iff.mp number
  · exact Or.inr (Or.inr (ofText_of_no_stem (by simpa using known)))

/-- A text is read as the keys that it stands for. -/
theorem ofText_eq_ok_iff : ofText s = .ok k ↔ Names s k := by
  constructor
  · intro read
    rcases ofText_cases s with ⟨key, found, names⟩ | refused | refused
    · cases read.symm.trans found
      exact names
    · cases read.symm.trans refused
    · cases read.symm.trans refused
  · rintro ⟨numeral, front, stands⟩
    obtain ⟨make, kind, same⟩ := exists_kind k
    rw [ofText_of_stem kind front, readId?_eq_some_iff.mpr stands]
    exact congrArg Except.ok same

theorem names_toText (k : JobKey) : Names k.toText k := by
  refine ⟨Numeral.ofInt k.id.toInt, ?_, Numeral.readInt?_eq_some_iff.mp (Numeral.readInt?_ofInt _)⟩
  rw [toText, String.toList_ofList]
  cases k <;> rfl

theorem ofText_toText (k : JobKey) : ofText k.toText = .ok k :=
  ofText_eq_ok_iff.mpr (names_toText k)

/-- A text stands for a key exactly if it is a stem and a numeral of the 64-bit range. -/
theorem exists_names_iff : (∃ k, Names s k) ↔
    ∃ stem numeral i, (stem = "pipeline-".toList ∨ stem = "erp-".toList) ∧
      s.toList = stem ++ numeral ∧ Numeral.StandsFor numeral i ∧ InRange i := by
  constructor
  · rintro ⟨k, numeral, front, stands⟩
    refine ⟨k.stem, numeral, k.id.toInt, ?_, front, stands, inRange_toInt k.id⟩
    cases k with
    | pipeline id => exact Or.inl rfl
    | sync id => exact Or.inr rfl
  · rintro ⟨stem, numeral, i, isStem, front, stands, least, most⟩
    obtain ⟨make, kind⟩ := exists_mem_kinds isStem
    obtain ⟨sameStem, sameId⟩ := stem_and_id_of_mem_kinds kind (Int64.ofInt i)
    refine ⟨make (Int64.ofInt i), numeral, by rw [sameStem, front], ?_⟩
    rwa [sameId, Int64.toInt_ofInt_of_le least most]

/-- A number that 64 bits do not hold is an error, under either stem. -/
theorem ofText_of_not_inRange (isStem : stem = "pipeline-".toList ∨ stem = "erp-".toList)
    (front : s.toList = stem ++ numeral) (stands : Numeral.StandsFor numeral i)
    (outside : ¬ InRange i) : ofText s = .error (.invalidId s) := by
  obtain ⟨make, kind⟩ := exists_mem_kinds isStem
  rw [ofText_of_stem kind front, readId?_of_not_inRange stands outside, Option.elim_none]

section Documents

variable {δ : Type} [Document δ] {d kind number : δ} {entries : List (String × δ)}

theorem readKind_of_str (isKind : Document.view kind = .str k.kind) :
    ∃ make, readKind kind = .ok make ∧ make k.id = k := by
  rw [readKind, isKind]
  cases k with
  | pipeline id => exact ⟨pipeline, rfl, rfl⟩
  | sync id => exact ⟨sync, rfl, rfl⟩

/-- A document with the kind and the number of a key is that key, in whichever order they stand and
whatever else it has. -/
theorem read_of_entries (object : Document.view d = .map entries)
    (kindEntry : entries.lookup "kind" = some kind) (isKind : Document.view kind = .str k.kind)
    (idEntry : entries.lookup "id" = some number)
    (isNumber : Document.view number = .int k.id.toInt) : read d = .ok k := by
  obtain ⟨make, readsKind, same⟩ := readKind_of_str isKind
  have readsNumber := readInt64_of_view isNumber
  rw [read, object]
  simp only [kindEntry, idEntry, readsKind, readsNumber]
  exact congrArg Except.ok same

end Documents

theorem read_toJson (k : JobKey) : read k.toJson = .ok k := by
  have entries := Json.lookup_foldl_insertEntry
    [("kind", Json.str k.kind), ("id", .int k.id.toInt)] []
  have object : Document.view k.toJson =
      .map (Json.sortEntries [("kind", .str k.kind), ("id", .int k.id.toInt)]) := rfl
  exact read_of_entries object (entries "kind") rfl (entries "id") rfl

theorem parse?_pair {a b : Json} (first second : String)
    (readsFirst : Json.Reads (Json.depthLimit - 1) a.chars a)
    (readsSecond : Json.Reads (Json.depthLimit - 1) b.chars b) :
    Json.parse? (Json.obj [(first, a), (second, b)]).render =
      some (.ofEntries [(first, a), (second, b)]) := by
  have reads : Json.Reads Json.depthLimit _ _ :=
    (readsFirst.moreEntries first (readsSecond.lastEntry second)).reads
  refine Json.Reads.parse? ?_
  simpa only [Json.chars, Json.charsOfEntries, List.cons_append, List.append_assoc] using reads

/-- The kind stands first where a key is written, the number first where entries are sorted. -/
theorem parse?_toJson (k : JobKey) :
    Json.parse? (Json.obj [("kind", .str k.kind), ("id", .int k.id.toInt)]).render =
        some k.toJson ∧
      Json.parse? k.toJson.render = some k.toJson := by
  have readsKind := Json.reads_str (Json.depthLimit - 1) k.kind
  have readsId := Json.reads_int (Json.depthLimit - 1) (Int64.le_toInt k.id)
    (Int.lt_trans (Int64.toInt_lt k.id) (by decide))
  have before : ("id" : String) < "kind" := by decide
  have sorted : k.toJson = .obj [("id", .int k.id.toInt), ("kind", .str k.kind)] := by
    rw [toJson, Json.ofEntries, Json.sortEntries, List.foldl_cons, List.foldl_cons, List.foldl_nil,
      Json.insertEntry, Json.insertEntry, if_pos before]
  have kept : Json.ofEntries [("id", .int k.id.toInt), ("kind", .str k.kind)] =
      .obj [("id", .int k.id.toInt), ("kind", .str k.kind)] := by
    have ascending : List.Pairwise (· < ·) ([("id", Json.int k.id.toInt),
        ("kind", .str k.kind)].map Prod.fst) := List.pairwise_pair.mpr before
    rw [Json.ofEntries, Json.sortEntries_of_ascending ascending]
  refine ⟨parse?_pair "kind" "id" readsKind readsId, ?_⟩
  rw [sorted, parse?_pair "id" "kind" readsId readsKind, kept]

/-- What is written for a key is read as that key and as no other, and what is read at all is a stem
with a signed numeral of the 64-bit range. -/
theorem texts_and_documents_faithful (k : JobKey) (s : String) :
    ofText k.toText = .ok k ∧
      (∀ other : JobKey, other.toText = k.toText ↔ other = k) ∧
      read k.toJson = .ok k ∧
      Json.parse? (Json.obj [("kind", .str k.kind), ("id", .int k.id.toInt)]).render =
        some k.toJson ∧
      Json.parse? k.toJson.render = some k.toJson ∧
      (ofText s = .ok k ↔ Names s k) ∧
      ((∃ key, ofText s = .ok key) ↔
        ∃ stem numeral i, (stem = "pipeline-".toList ∨ stem = "erp-".toList) ∧
          s.toList = stem ++ numeral ∧ Numeral.StandsFor numeral i ∧ InRange i) ∧
      (∀ key, ofText s = .ok key → ofText key.toText = .ok key) ∧
      ((∀ key, ¬ Names s key) →
        ofText s = .error (.invalidId s) ∨ ofText s = .error (.unknown s)) ∧
      (∀ stem numeral i, (stem = "pipeline-".toList ∨ stem = "erp-".toList) →
        s.toList = stem ++ numeral → Numeral.StandsFor numeral i → ¬ InRange i →
          ofText s = .error (.invalidId s)) := by
  refine ⟨ofText_toText k, fun other => toText_injective.eq_iff, read_toJson k,
    (parse?_toJson k).1, (parse?_toJson k).2, ofText_eq_ok_iff, ?_, fun key _ => ofText_toText key,
    fun other => ?_, fun stem numeral i => ofText_of_not_inRange⟩
  · rw [← exists_names_iff]
    exact exists_congr fun key => ofText_eq_ok_iff
  · exact (ofText_cases s).resolve_left fun ⟨key, _, names⟩ => other key names

/-- A plus sign, zeros in front and a minus behind the mark of the stem. -/
example : ofText "erp--0042" = .ok (.sync (-42)) ∧ ofText "pipeline-+7" = .ok (.pipeline 7) := by
  decide

end JobKey

end Geoflow
