import Geoflow.Proofs.Binary64.Nearest
import Geoflow.Proofs.Json.Fields
import Geoflow.Proofs.Json.ReadBack
import Geoflow.Proofs.Outcome

set_option autoImplicit false

namespace Geoflow

namespace Json

variable {α : Type} {entries : List (String × α)} {name : String}

theorem mem_insertEntry {value : α} {entry : String × α}
    (mem : entry ∈ insertEntry name value entries) : entry = (name, value) ∨ entry ∈ entries := by
  induction entries with
  | nil => exact Or.inl (List.mem_singleton.mp mem)
  | cons first rest ih =>
    obtain ⟨other, kept⟩ := first
    rw [insertEntry] at mem
    split at mem
    · exact List.mem_cons.mp mem
    · split at mem
      · rcases List.mem_cons.mp mem with new | old
        · exact Or.inl new
        · exact Or.inr (List.mem_cons_of_mem _ old)
      · rcases List.mem_cons.mp mem with same | later
        · exact Or.inr (same ▸ List.mem_cons_self)
        · rcases ih later with new | old
          · exact Or.inl new
          · exact Or.inr (List.mem_cons_of_mem _ old)

theorem ascending_cons_iff {entry : String × α} :
    Ascending (entry :: entries) ↔ (∀ e ∈ entries, entry.1 < e.1) ∧ Ascending entries := by
  simp [Ascending]

theorem Ascending.insertEntry (ascending : Ascending entries) (name : String) (value : α) :
    Ascending (insertEntry name value entries) := by
  induction entries with
  | nil => exact ascending_cons_iff.mpr ⟨nofun, ascending⟩
  | cons first rest ih =>
    obtain ⟨other, kept⟩ := first
    obtain ⟨above, later⟩ := ascending_cons_iff.mp ascending
    rw [Json.insertEntry]
    split
    · rename_i before
      apply ascending_cons_iff.mpr
      constructor
      · intro e mem
        rcases List.mem_cons.mp mem with same | inRest
        · rw [same]
          exact before
        · exact String.lt_trans before (above e inRest)
      · exact ascending
    · rename_i notBefore
      split
      · rename_i same
        subst same
        exact ascending_cons_iff.mpr ⟨above, later⟩
      · rename_i different
        have greater : other < name := by
          by_cases less : other < name
          · exact less
          · exact absurd (String.le_antisymm (String.not_lt.mp less) (String.not_lt.mp notBefore))
              different
        apply ascending_cons_iff.mpr
        constructor
        · intro e mem
          rcases mem_insertEntry mem with new | old
          · rw [new]
            exact greater
          · exact above e old
        · exact ih later

/-- Entries are put in order one by one. -/
theorem sortEntries_induction {motive : List (String × α) → Prop} (nil : motive [])
    (insert : ∀ sorted, ∀ entry ∈ entries, motive sorted →
      motive (Json.insertEntry entry.1 entry.2 sorted)) : motive (sortEntries entries) := by
  have grown : ∀ sorted, motive sorted → motive
      (entries.foldl (fun sorted entry => Json.insertEntry entry.1 entry.2 sorted) sorted) := by
    induction entries with
    | nil => exact fun _ kept => kept
    | cons first rest ih =>
      intro sorted kept
      apply ih
      · intro sorted entry mem
        exact insert sorted entry (List.mem_cons_of_mem _ mem)
      · exact insert sorted first List.mem_cons_self kept
  exact grown [] nil

theorem ascending_sortEntries (entries : List (String × α)) : Ascending (sortEntries entries) := by
  apply sortEntries_induction
  · exact List.Pairwise.nil
  · intro sorted entry _ ascending
    exact ascending.insertEntry entry.1 entry.2

theorem forall_mem_sortEntries {p : String × α → Prop} (each : ∀ entry ∈ entries, p entry) :
    ∀ entry ∈ sortEntries entries, p entry := by
  apply sortEntries_induction (motive := fun sorted => ∀ entry ∈ sorted, p entry)
  · exact nofun
  · intro sorted first listed kept entry mem
    rcases mem_insertEntry mem with new | old
    · rw [new]
      exact each first listed
    · exact kept entry old

theorem Proper.ofEntries {allowed : Binary64 → Prop} {depth : Nat} {entries : List (String × Json)}
    (each : ∀ entry ∈ entries, Proper allowed depth entry.2) :
    Proper allowed (depth + 1) (.ofEntries entries) :=
  .obj (ascending_sortEntries entries) (forall_mem_sortEntries each)

theorem lookup_sortEntries (entries : List (String × α)) (name : String) :
    (sortEntries entries).lookup name = entries.reverse.lookup name := by
  have looked := lookup_foldl_insertEntry entries [] name
  rwa [List.append_nil] at looked

end Json

namespace Reading

variable {α β : Type}

theorem map_eq_value_iff {f : α → β} {r : Reading α} {b : β} :
    f <$> r = .value b ↔ ∃ a, r = .value a ∧ f a = b := by
  cases r with
  | value a =>
    show Reading.value (f a) = .value b ↔ _
    simp
  | fault e =>
    show Reading.fault e = .value b ↔ _
    simp

theorem seq_eq_value_iff {f : Reading (α → β)} {r : Reading α} {b : β} :
    f <*> r = .value b ↔ ∃ g a, f = .value g ∧ r = .value a ∧ g a = b := by
  show Reading.both f r = .value b ↔ _
  cases f with
  | value g => cases r <;> simp [both]
  | fault e => cases r <;> simp [both]

end Reading

section Written

variable {α : Type} {entries : List (String × Json)} {shape : String} {count index : Nat}
  {d : Json} {a : α} {read : Json → Except ReadError α} {absent : Option α}

/-- A field is read from the entry that was written for it. -/
theorem Fields.field_written (name : String)
    (written : entries.reverse.lookup name = some d) (reads : read d = .ok a) :
    Fields.field ⟨shape, count, .named (Json.sortEntries entries)⟩ index name read absent =
      .value a := by
  rw [← Json.lookup_sortEntries] at written
  rcases (Json.ascending_sortEntries entries).entriesOf_cases name 0 with
    ⟨none, -⟩ | ⟨i, e, -, some, single⟩
  · rw [written] at none
    cases none
  · rw [written] at some
    cases some
    simp only [Fields.field, single, placeAt, reads]

/-- A field without an entry has its default. -/
theorem Fields.field_unwritten (name : String)
    (unwritten : entries.reverse.lookup name = none) :
    Fields.field ⟨shape, count, .named (Json.sortEntries entries)⟩ index name read (some a) =
      .value a := by
  rw [← Json.lookup_sortEntries] at unwritten
  rcases (Json.ascending_sortEntries entries).entriesOf_cases name 0 with
    ⟨-, nothing⟩ | ⟨i, e, -, some, -⟩
  · simp only [Fields.field, nothing]
  · rw [unwritten] at some
    cases some

theorem readShape_written {build : Fields Json → Reading α}
    (fields : build ⟨shape, count, .named (Json.sortEntries entries)⟩ = .value a) :
    readShape shape count build (Json.ofEntries entries) = .ok a := by
  show (build ⟨shape, count, .named (Json.sortEntries entries)⟩).toExcept = .ok a
  rw [fields]
  rfl

theorem readRange_natCast (kind : String) {n size : Nat} (below : n < size) :
    readRange kind 0 (size - 1) (Json.int n) = .ok (n : Int) := by
  have bounds : (0 : Int) ≤ n ∧ (n : Int) ≤ size - 1 := by omega
  exact if_pos bounds

theorem readInt64_of_view {δ : Type} [Document δ] {d : δ} {n : Int64}
    (seen : Document.view d = .int n.toInt) : readInt64 d = .ok n := by
  have bounds : Int64.minValue.toInt ≤ n.toInt ∧ n.toInt ≤ Int64.maxValue.toInt :=
    ⟨Int64.minValue_le_toInt n, Int64.toInt_le n⟩
  simp only [readInt64, readRange, seen, if_pos bounds, Except.map, Int64.ofInt_toInt]

theorem readInt64_int (n : Int64) : readInt64 (Json.int n.toInt) = .ok n := readInt64_of_view rfl

theorem readUInt64_int (n : UInt64) : readUInt64 (Json.int n.toNat) = .ok n := by
  rw [readUInt64, readRange_natCast "u64" n.toNat_lt]
  exact congrArg Except.ok UInt64.ofNat_toNat

theorem readSize_int (n : UInt64) : readSize (Json.int n.toNat) = .ok n := by
  rw [readSize, readRange_natCast "usize" n.toNat_lt]
  exact congrArg Except.ok UInt64.ofNat_toNat

theorem readUInt16_int (n : UInt16) : readUInt16 (Json.int n.toNat) = .ok n := by
  rw [readUInt16, readRange_natCast "u16" n.toNat_lt]
  exact congrArg Except.ok UInt16.ofNat_toNat

theorem readBinary64_of_finite {x : Binary64} (finite : x.isFinite = true) :
    readBinary64 (Json.ofBinary64 x) = .ok x := by
  rw [Json.ofBinary64, if_pos finite]
  rfl

theorem view_ne_null (other : d ≠ .null) : Document.view d ≠ .null := by
  intro null
  cases d with
  | null => exact other rfl
  | bool | int | float | str | arr | obj => cases null

theorem readOption_of {write : α → Json} (reads : ∀ a, read (write a) = .ok a)
    (notNull : ∀ a, write a ≠ .null) (o : Option α) :
    readOption read (Json.ofOption write o) = .ok o := by
  cases o with
  | none => rfl
  | some a =>
    rw [Json.ofOption, readOption]
    split
    · rename_i null
      exact absurd null (view_ne_null (notNull a))
    · rw [reads]
      rfl

theorem readItems_map {δ β : Type} {read : δ → Except ReadError β} {write : β → δ} {as : List β}
    (each : ∀ a ∈ as, read (write a) = .ok a) : readItems read (as.map write) = .ok as := by
  induction as with
  | nil => rfl
  | cons a as ih =>
    obtain ⟨first, later⟩ := List.forall_mem_cons.mp each
    rw [List.map_cons, readItems, first, ih later]
    rfl

theorem readList_arr {write : α → Json} {as : List α} (each : ∀ a ∈ as, read (write a) = .ok a) :
    readList read (Json.arr (as.map write)) = .ok as := readItems_map each

theorem readMap_obj (ascending : Json.Ascending entries) :
    readMap (Json.obj entries) = .ok entries := by
  have each : readItems (fun e : String × Json => (Document.toJson e.2).map (e.1, ·))
      (entries.map id) = .ok entries := readItems_map fun _ _ => rfl
  rw [List.map_id] at each
  show (readItems _ entries >>= fun values => pure (Json.sortEntries values)) = _
  rw [each]
  exact congrArg Except.ok (Json.sortEntries_of_ascending ascending)

end Written

/-- A kind of documents whose numbers are whole ones of the 64-bit ranges and finite doubles, also
in all their parts. -/
structure Document.Regular {δ : Type} [Document δ] (holds : δ → Prop) : Prop where
  int : ∀ {d n}, holds d → Document.view d = .int n → -2 ^ 63 ≤ n ∧ n < 2 ^ 64
  float : ∀ {d x}, holds d → Document.view d = .float x → x.isFinite = true
  item : ∀ {d items}, holds d → Document.view d = .sequence items → ∀ item ∈ items, holds item
  entry : ∀ {d entries}, holds d → Document.view d = .map entries →
    ∀ entry ∈ entries, holds entry.2

/-- A document as parsing gives it, nested however deep. -/
def Json.Sane (doc : Json) : Prop := ∃ depth, Json.Proper (fun x => x.isFinite = true) depth doc

theorem Json.sane_regular : Document.Regular Json.Sane where
  int := by
    intro d n sane seen
    obtain ⟨depth, proper⟩ := sane
    cases proper with
    | int least greatest =>
      cases seen
      exact ⟨least, greatest⟩
    | null | bool | float | str | arr | obj => cases seen
  float := by
    intro d x sane seen
    obtain ⟨depth, proper⟩ := sane
    cases proper with
    | float finite =>
      cases seen
      exact finite
    | null | bool | int | str | arr | obj => cases seen
  item := by
    intro d items sane seen
    obtain ⟨depth, proper⟩ := sane
    cases proper with
    | arr each =>
      cases seen
      exact fun item mem => ⟨_, each item mem⟩
    | null | bool | int | float | str | obj => cases seen
  entry := by
    intro d entries sane seen
    obtain ⟨depth, proper⟩ := sane
    cases proper with
    | obj _ each =>
      cases seen
      exact fun entry mem => ⟨_, each entry mem⟩
    | null | bool | int | float | str | arr => cases seen

def FieldSource.All {δ : Type} (holds : δ → Prop) : FieldSource δ → Prop
  | .named entries => ∀ entry ∈ entries, holds entry.2
  | .positional items => ∀ item ∈ items, holds item

section Readings

variable {δ α : Type} {d : δ} {a : α} {name : String} {read : δ → Except ReadError α}

theorem mem_of_mem_entriesOf {entries : List (String × δ)} {place start : Nat}
    (mem : (place, d) ∈ entriesOf name start entries) : (name, d) ∈ entries := by
  induction entries generalizing start with
  | nil => cases mem
  | cons entry rest ih =>
    obtain ⟨other, kept⟩ := entry
    rw [entriesOf] at mem
    split at mem
    · rename_i same
      rcases List.mem_cons.mp mem with first | later
      · cases first
        rw [same]
        exact List.mem_cons_self
      · exact List.mem_cons_of_mem _ (ih later)
    · exact List.mem_cons_of_mem _ (ih mem)

theorem placeAt_eq_value_iff {place : Nat} {outcome : Except ReadError α} :
    placeAt place outcome = .value a ↔ outcome = .ok a := by
  cases outcome <;> simp [placeAt]

theorem Reading.toExcept_eq_ok_iff {r : Reading α} : r.toExcept = .ok a ↔ r = .value a := by
  cases r <;> simp [Reading.toExcept]

variable {holds : δ → Prop}

/-- A field has its default, or the value of one of the documents. -/
theorem Fields.value_cases {fs : Fields δ} {index : Nat} {absent : Option α}
    (all : fs.source.All holds) (value : fs.field index name read absent = .value a) :
    absent = some a ∨ ∃ d, holds d ∧ read d = .ok a := by
  unfold Fields.field at value
  split at value
  · rename_i entries named
    rw [named] at all
    split at value
    · split at value
      · cases value
        exact Or.inl rfl
      · cases value
    · rename_i place d single
      have listed := mem_of_mem_entriesOf (single ▸ List.mem_singleton_self _)
      exact Or.inr ⟨d, all _ listed, placeAt_eq_value_iff.mp value⟩
    · split at value <;> cases value
  · rename_i items positional
    rw [positional] at all
    split at value
    · rename_i d found
      exact Or.inr ⟨d, all d (List.mem_of_getElem? found), placeAt_eq_value_iff.mp value⟩
    · split at value
      · cases value
        exact Or.inl rfl
      · cases value

theorem exists_of_readItems {items : List δ} {as : List α} (all : ∀ item ∈ items, holds item)
    (reads : readItems read items = .ok as) : ∀ a ∈ as, ∃ item, holds item ∧ read item = .ok a := by
  induction items generalizing as with
  | nil =>
    cases reads
    exact nofun
  | cons item items ih =>
    obtain ⟨first, readFirst, later⟩ := bind_eq_ok_iff.mp reads
    obtain ⟨rest, readRest, same⟩ := bind_eq_ok_iff.mp later
    cases same
    obtain ⟨heldFirst, heldRest⟩ := List.forall_mem_cons.mp all
    exact List.forall_mem_cons.mpr ⟨⟨item, heldFirst, readFirst⟩, ih heldRest readRest⟩

variable [Document δ] (regular : Document.Regular holds) (held : holds d)

include regular held

theorem readBinary64_isFinite {x : Binary64} (reads : readBinary64 d = .ok x) :
    x.isFinite = true := by
  unfold readBinary64 at reads
  split at reads
  · rename_i seen
    cases reads
    exact regular.float held seen
  · rename_i n seen
    cases reads
    have range := regular.int held seen
    exact Binary64.isFinite_ofInt (by omega)
  · cases reads

/-- A shape is read from the documents under its fields. -/
theorem readShape_value {shape : String} {count : Nat} {build : Fields δ → Reading α}
    (reads : readShape shape count build d = .ok a) :
    ∃ source : FieldSource δ, source.All holds ∧ build ⟨shape, count, source⟩ = .value a := by
  unfold readShape at reads
  split at reads
  · rename_i entries seen
    exact ⟨.named entries, regular.entry held seen, Reading.toExcept_eq_ok_iff.mp reads⟩
  · rename_i items seen
    split at reads
    · cases reads
    · rename_i built
      split at reads
      · cases reads
      · cases reads
        exact ⟨.positional items, regular.item held seen, Reading.toExcept_eq_ok_iff.mp built⟩
  · cases reads

theorem exists_of_readList {as : List α} (reads : readList read d = .ok as) :
    ∀ a ∈ as, ∃ item, holds item ∧ read item = .ok a := by
  unfold readList at reads
  split at reads
  · rename_i items seen
    exact exists_of_readItems (regular.item held seen) reads
  · cases reads

omit regular held in
theorem ascending_of_readMap {entries : List (String × Json)} (reads : readMap d = .ok entries) :
    Json.Ascending entries := by
  unfold readMap at reads
  split at reads
  · obtain ⟨values, -, same⟩ := bind_eq_ok_iff.mp reads
    cases same
    exact Json.ascending_sortEntries values
  · cases reads

end Readings

end Geoflow
