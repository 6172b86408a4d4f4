import Geoflow.Proofs.Json.Double
import Geoflow.Proofs.Json.Literal

set_option autoImplicit false

namespace Geoflow.Json

variable {allowed : Binary64 → Prop} {depth fuel : Nat} {c : Char} {cs ds : List Char}
  {rest : Input} {doc : Json} {docs : List Json} {name : String} {entries : List (String × Json)}

/-- A document as parsing gives it: whole numbers of the 64-bit ranges, doubles of a kind, objects
with ascending names, and at most `depth` arrays and objects nested. -/
inductive Proper (allowed : Binary64 → Prop) : Nat → Json → Prop
  | null {depth : Nat} : Proper allowed depth .null
  | bool {depth : Nat} (b : Bool) : Proper allowed depth (.bool b)
  | int {depth : Nat} {n : Int} (least : -2 ^ 63 ≤ n) (greatest : n < 2 ^ 64) :
    Proper allowed depth (.int n)
  | float {depth : Nat} {x : Binary64} (kind : allowed x) : Proper allowed depth (.float x)
  | str {depth : Nat} (s : String) : Proper allowed depth (.str s)
  | arr {depth : Nat} {items : List Json} (proper : ∀ item ∈ items, Proper allowed depth item) :
    Proper allowed (depth + 1) (.arr items)
  | obj {depth : Nat} {entries : List (String × Json)}
    (ascending : (entries.map Prod.fst).Pairwise (· < ·))
    (proper : ∀ entry ∈ entries, Proper allowed depth entry.2) :
    Proper allowed (depth + 1) (.obj entries)

/-- Wherever a value may end behind the characters, they are read and mean the document. -/
def Reads (depth : Nat) (cs : List Char) (doc : Json) : Prop :=
  ∃ raw : Raw, raw.toJson? depth = some doc ∧
    ∀ {fuel : Nat} {rest : Input}, cs.length ≤ fuel → Ends rest →
      value? fuel (written cs ++ rest) = some (raw, rest)

/-- The characters are the items of an array up to its closing bracket. An item costs one unit of
fuel besides its own text, which the mark behind it pays for. -/
def ReadsItems (depth : Nat) (cs : List Char) (docs : List Json) : Prop :=
  ∃ raws : List Raw, Raw.itemsToJson? raws depth = some docs ∧
    ∀ {fuel : Nat} {rest : Input}, cs.length ≤ fuel →
      items? fuel (written cs ++ rest) = some (raws, rest)

/-- The characters are the entries of an object up to its closing brace. -/
def ReadsEntries (depth : Nat) (cs : List Char) (entries : List (String × Json)) : Prop :=
  ∃ raws : List (Option String × Raw), Raw.entriesToJson? raws depth = some entries ∧
    ∀ {fuel : Nat} {rest : Input}, cs.length ≤ fuel →
      entries? fuel (written cs ++ rest) = some (raws, rest)

theorem skipBlanks_of_solid (solid : ¬ (c = ' ' ∨ c = '\n' ∨ c = '\t' ∨ c = '\r')) :
    skipBlanks (some c :: rest) = some c :: rest := by
  rw [skipBlanks, if_neg solid]

theorem reads_null (depth : Nat) : Reads depth (chars .null) .null := by
  refine ⟨.null, rfl, fun {fuel rest} enough _ => ?_⟩
  cases fuel with
  | zero => exact absurd enough (by decide)
  | succ fuel => rfl

theorem reads_bool (depth : Nat) (b : Bool) : Reads depth (chars (.bool b)) (.bool b) := by
  refine ⟨.bool b, rfl, fun {fuel rest} enough _ => ?_⟩
  cases fuel with
  | zero => cases b <;> exact absurd enough (by decide)
  | succ fuel => cases b <;> rfl

theorem reads_str (depth : Nat) (s : String) : Reads depth (chars (.str s)) (.str s) := by
  refine ⟨.string (some s), rfl, fun {fuel rest} enough _ => ?_⟩
  cases fuel with
  | zero => exact absurd enough (by simp [chars, literal])
  | succ fuel =>
    have read := string?_written s rest
    simp only [chars, literal, written_cons, written_append, List.cons_append, List.append_assoc,
      written_nil, List.nil_append]
    rw [value?, skipBlanks_of_solid (by decide)]
    simp only [read, Option.map_some]

/-- A number starts with its sign or a digit, so it is taken for nothing else. -/
theorem value?_number (mark : c = '-' ∨ Numeral.isDigit c = true) :
    value? (fuel + 1) (some c :: rest) =
      (number? (some c :: rest)).map fun found => (.number found.1, found.2) := by
  have solid : ¬ (c = ' ' ∨ c = '\n' ∨ c = '\t' ∨ c = '\r') := by
    rintro (rfl | rfl | rfl | rfl) <;> revert mark <;> decide
  rw [value?, skipBlanks_of_solid solid]
  split <;> rename_i same <;> first
    | rfl
    | (cases same; exact absurd mark (by decide))

theorem NumberText.Writable.reads {n : NumberText} (writable : n.Writable) (depth : Nat)
    (meaning : n.toJson? = some doc) : Reads depth n.chars doc := by
  obtain ⟨d, ds, whole, -⟩ := writable.leads
  have digit : Numeral.isDigit d = true :=
    writable.whole d (by rw [whole]; exact List.mem_cons_self)
  obtain ⟨c, cs, starts, mark⟩ : ∃ c cs, n.chars = c :: cs ∧
      (c = '-' ∨ Numeral.isDigit c = true) := by
    unfold NumberText.chars
    split
    · exact ⟨_, _, rfl, .inl rfl⟩
    · rw [whole]
      exact ⟨_, _, rfl, .inr digit⟩
  refine ⟨.number n, meaning, fun {fuel rest} enough ends => ?_⟩
  have read := number?_written writable ends
  cases fuel with
  | zero => exact absurd enough (by simp [starts])
  | succ fuel =>
    rw [starts] at read ⊢
    rw [written_cons, List.cons_append] at read ⊢
    rw [value?_number mark, read, Option.map_some]

def NumberText.ofInt (n : Int) : NumberText := ⟨n < 0, Numeral.digits n.natAbs, [], none⟩

theorem NumberText.chars_ofInt (n : Int) : (ofInt n).chars = Numeral.ofInt n := by
  by_cases negative : n < 0 <;>
    simp [chars, ofInt, Numeral.ofInt, negative, fractionChars, exponentChars]

theorem NumberText.writable_ofInt (n : Int) : (ofInt n).Writable where
  whole _ mem := Numeral.isDigit_of_mem_digits mem
  leads := Numeral.digits_leads _
  fraction := nofun
  exponent := nofun

theorem NumberText.toJson?_ofInt {n : Int} (least : -2 ^ 63 ≤ n) (greatest : n < 2 ^ 64) :
    (ofInt n).toJson? = some (.int n) := by
  have size : UInt64.size = 2 ^ 64 := rfl
  have half : Nat.pow 2 63 = 2 ^ 63 := rfl
  rw [toJson?, ofInt]
  simp only [Numeral.value_digits, List.isEmpty_nil, Option.isNone_none, decide_eq_true_eq,
    true_and, size, half]
  by_cases negative : n < 0
  · rw [if_pos (by rw [if_pos negative]; omega), if_pos negative]
    exact congrArg (some ∘ Json.int) (by omega)
  · rw [if_pos (by rw [if_neg negative]; omega), if_neg negative]
    exact congrArg (some ∘ Json.int) (by omega)

theorem reads_int {n : Int} (depth : Nat) (least : -2 ^ 63 ≤ n) (greatest : n < 2 ^ 64) :
    Reads depth (chars (.int n)) (.int n) := by
  rw [chars, ← NumberText.chars_ofInt]
  exact (NumberText.writable_ofInt n).reads depth (NumberText.toJson?_ofInt least greatest)

section Parts

variable {input behind after : Input} {raw : Raw} {raws : List Raw} {label : Option String}
  {found : List (Option String × Raw)}

theorem items?_last (read : value? fuel input = some (raw, some ']' :: after)) :
    items? (fuel + 1) input = some ([raw], after) := by
  rw [items?, read]
  rfl

theorem items?_more (read : value? fuel input = some (raw, some ',' :: behind))
    (more : items? fuel behind = some (raws, after)) :
    items? (fuel + 1) input = some (raw :: raws, after) := by
  rw [items?, read]
  simp only [Option.bind_eq_bind, Option.bind_some]
  rw [skipBlanks_of_solid (by decide)]
  simp only [more, Option.bind_some]
  rfl

theorem entries?_last (named : string? input = some (label, some ':' :: behind))
    (read : value? fuel behind = some (raw, some '\x7d' :: after)) :
    entries? (fuel + 1) (some '"' :: input) = some ([(label, raw)], after) := by
  rw [entries?, skipBlanks_of_solid (by decide)]
  simp only [named, Option.bind_eq_bind, Option.bind_some]
  rw [skipBlanks_of_solid (by decide)]
  simp only [read, Option.bind_some]
  rfl

theorem entries?_more {next : Input} (named : string? input = some (label, some ':' :: behind))
    (read : value? fuel behind = some (raw, some ',' :: next))
    (more : entries? fuel next = some (found, after)) :
    entries? (fuel + 1) (some '"' :: input) = some ((label, raw) :: found, after) := by
  rw [entries?, skipBlanks_of_solid (by decide)]
  simp only [named, Option.bind_eq_bind, Option.bind_some]
  rw [skipBlanks_of_solid (by decide)]
  simp only [read, Option.bind_some]
  rw [skipBlanks_of_solid (by decide)]
  simp only [more, Option.bind_some]
  rfl

theorem items?_of_closed (closed : skipBlanks input = some ']' :: after) :
    items? fuel input = none := by
  cases fuel with
  | zero => exact items?_zero input
  | succ fuel =>
    have none : value? fuel input = none := by
      cases fuel with
      | zero => exact value?_zero input
      | succ fuel =>
        rw [value?, closed]
        rfl
    rw [items?, none]
    rfl

theorem entries?_of_closed (closed : skipBlanks input = some '\x7d' :: after) :
    entries? fuel input = none := by
  cases fuel with
  | zero => exact entries?_zero input
  | succ fuel =>
    rw [entries?, closed]
    rfl

theorem value?_array (read : items? fuel input = some (raws, after)) :
    value? (fuel + 1) (some '[' :: input) = some (.array raws, after) := by
  rw [value?, skipBlanks_of_solid (by decide)]
  split
  case h_2 own same =>
    cases same
    split
    · rename_i closed
      rw [items?_of_closed closed] at read
      cases read
    · rw [read]
      rfl
  all_goals simp_all

theorem value?_object (read : entries? fuel input = some (found, after)) :
    value? (fuel + 1) (some '\x7b' :: input) = some (.object found, after) := by
  rw [value?, skipBlanks_of_solid (by decide)]
  split
  case h_3 own same =>
    cases same
    split
    · rename_i closed
      rw [entries?_of_closed closed] at read
      cases read
    · rw [read]
      rfl
  all_goals simp_all

end Parts

theorem Reads.length_pos (reads : Reads depth cs doc) : 0 < cs.length := by
  obtain ⟨raw, -, read⟩ := reads
  refine Nat.pos_of_ne_zero fun none => ?_
  cases read (Nat.le_of_eq none) ends_nil

theorem Reads.lastItem (reads : Reads depth cs doc) : ReadsItems depth (cs ++ [']']) [doc] := by
  obtain ⟨raw, meaning, read⟩ := reads
  refine ⟨[raw], ?_, fun {fuel rest} enough => ?_⟩
  · simp only [Raw.itemsToJson?, meaning]
    rfl
  · rw [List.length_append, List.length_singleton] at enough
    obtain ⟨fuel, rfl⟩ := Nat.exists_eq_add_of_le' (Nat.le_of_add_left_le enough)
    rw [written_append, List.append_assoc]
    exact items?_last (read (by omega) (ends_cons (.inr (.inl rfl))))

theorem Reads.moreItems (reads : Reads depth cs doc) (more : ReadsItems depth ds docs) :
    ReadsItems depth (cs ++ ',' :: ds) (doc :: docs) := by
  have some := reads.length_pos
  obtain ⟨raw, meaning, read⟩ := reads
  obtain ⟨raws, meanings, readMore⟩ := more
  refine ⟨raw :: raws, ?_, fun {fuel rest} enough => ?_⟩
  · simp only [Raw.itemsToJson?, meaning, meanings]
    rfl
  · rw [List.length_append, List.length_cons] at enough
    obtain ⟨fuel, rfl⟩ := Nat.exists_eq_add_of_le' (show 1 ≤ fuel by omega)
    rw [written_append, List.append_assoc]
    exact items?_more (read (by omega) (ends_cons (.inl rfl))) (readMore (by omega))

theorem Reads.lastEntry (name : String) (reads : Reads depth cs doc) :
    ReadsEntries depth (literal name ++ ':' :: (cs ++ ['\x7d'])) [(name, doc)] := by
  obtain ⟨raw, meaning, read⟩ := reads
  refine ⟨[(some name, raw)], ?_, fun {fuel rest} enough => ?_⟩
  · simp only [Raw.entriesToJson?, meaning]
    rfl
  · rw [List.length_append, List.length_cons, List.length_append, List.length_singleton] at enough
    obtain ⟨fuel, rfl⟩ := Nat.exists_eq_add_of_le' (show 1 ≤ fuel by omega)
    simp only [literal, written_cons, written_append, List.cons_append, List.append_assoc,
      written_nil, List.nil_append]
    exact entries?_last (string?_written name _) (read (by omega) (ends_cons (.inr (.inr rfl))))

theorem Reads.moreEntries (name : String) (reads : Reads depth cs doc)
    (more : ReadsEntries depth ds entries) :
    ReadsEntries depth (literal name ++ ':' :: (cs ++ ',' :: ds)) ((name, doc) :: entries) := by
  obtain ⟨raw, meaning, read⟩ := reads
  obtain ⟨found, meanings, readMore⟩ := more
  refine ⟨(some name, raw) :: found, ?_, fun {fuel rest} enough => ?_⟩
  · simp only [Raw.entriesToJson?, meaning, meanings]
    rfl
  · rw [List.length_append, List.length_cons, List.length_append, List.length_cons] at enough
    obtain ⟨fuel, rfl⟩ := Nat.exists_eq_add_of_le' (show 1 ≤ fuel by omega)
    simp only [literal, written_cons, written_append, List.cons_append, List.append_assoc,
      List.nil_append]
    exact entries?_more (string?_written name _) (read (by omega) (ends_cons (.inl rfl)))
      (readMore (by omega))

theorem ReadsItems.reads (reads : ReadsItems depth ds docs) :
    Reads (depth + 1) ('[' :: ds) (.arr docs) := by
  obtain ⟨raws, meanings, read⟩ := reads
  refine ⟨.array raws, ?_, fun {fuel rest} enough _ => ?_⟩
  · simp only [Raw.toJson?, meanings, Option.map_some]
  · rw [List.length_cons] at enough
    obtain ⟨fuel, rfl⟩ := Nat.exists_eq_add_of_le' (Nat.le_of_add_left_le enough)
    exact value?_array (read (by omega))

theorem ReadsEntries.reads (reads : ReadsEntries depth ds entries) :
    Reads (depth + 1) ('\x7b' :: ds) (ofEntries entries) := by
  obtain ⟨found, meanings, read⟩ := reads
  refine ⟨.object found, ?_, fun {fuel rest} enough _ => ?_⟩
  · simp only [Raw.toJson?, meanings, Option.map_some]
  · rw [List.length_cons] at enough
    obtain ⟨fuel, rfl⟩ := Nat.exists_eq_add_of_le' (Nat.le_of_add_left_le enough)
    exact value?_object (read (by omega))

theorem reads_arr_nil (depth : Nat) : Reads (depth + 1) (chars (.arr [])) (.arr []) := by
  refine ⟨.array [], rfl, fun {fuel rest} enough _ => ?_⟩
  cases fuel with
  | zero => exact absurd enough (by decide)
  | succ fuel => rfl

theorem reads_obj_nil (depth : Nat) : Reads (depth + 1) (chars (.obj [])) (.obj []) := by
  refine ⟨.object [], rfl, fun {fuel rest} enough _ => ?_⟩
  cases fuel with
  | zero => exact absurd enough (by decide)
  | succ fuel => rfl

theorem insertEntry_of_last {α : Type} {entries : List (String × α)} {value : α}
    (last : ∀ entry ∈ entries, entry.1 < name) :
    insertEntry name value entries = entries ++ [(name, value)] := by
  induction entries with
  | nil => rfl
  | cons entry entries ih =>
    obtain ⟨before, last⟩ := List.forall_mem_cons.mp last
    rw [insertEntry, if_neg (String.lt_asymm before), if_neg (String.ne_of_lt before).symm, ih last]
    rfl

theorem sortEntries_of_ascending {α : Type} {entries : List (String × α)}
    (ascending : (entries.map Prod.fst).Pairwise (· < ·)) : sortEntries entries = entries := by
  have grown : ∀ sorted : List (String × α),
      ((sorted ++ entries).map Prod.fst).Pairwise (· < ·) →
      entries.foldl (fun sorted entry => insertEntry entry.1 entry.2 sorted) sorted =
        sorted ++ entries := by
    clear ascending
    induction entries with
    | nil => simp
    | cons entry entries ih =>
      intro sorted ascending
      have last : ∀ other ∈ sorted, other.1 < entry.1 := by
        intro other mem
        rw [List.map_append, List.pairwise_append] at ascending
        exact ascending.2.2 _ (List.mem_map_of_mem mem) _ List.mem_cons_self
      rw [List.foldl_cons, insertEntry_of_last last, ih]
      · rw [List.append_assoc, List.singleton_append]
      · rwa [List.append_assoc, List.singleton_append]
  exact grown [] ascending

/-- The text of a document is read, and as that document where reading is exact. -/
def ReadsBack (exact : Prop) (depth : Nat) (doc : Json) : Prop :=
  ∃ read, Reads depth doc.chars read ∧ (exact → read = doc)

section Whole

variable {exact : Prop} {item : Json} {items : List Json} {value : Json}

theorem readsItems_chars (each : ∀ doc ∈ item :: items, ReadsBack exact depth doc) :
    ∃ reads, ReadsItems depth (item.chars ++ charsOfItems items) reads ∧
      (exact → reads = item :: items) := by
  induction items generalizing item with
  | nil =>
    obtain ⟨read, reads, same⟩ := each item List.mem_cons_self
    exact ⟨[read], reads.lastItem, fun exact => by rw [same exact]⟩
  | cons next items ih =>
    obtain ⟨⟨read, reads, same⟩, each⟩ := List.forall_mem_cons.mp each
    obtain ⟨others, readsOthers, sameOthers⟩ := ih each
    exact ⟨read :: others, reads.moreItems readsOthers,
      fun exact => by rw [same exact, sameOthers exact]⟩

theorem readsEntries_chars
    (each : ∀ entry ∈ (name, value) :: entries, ReadsBack exact depth entry.2) :
    ∃ reads, ReadsEntries depth
        (literal name ++ ':' :: (value.chars ++ charsOfEntries entries)) reads ∧
      (exact → reads = (name, value) :: entries) := by
  induction entries generalizing name value with
  | nil =>
    obtain ⟨read, reads, same⟩ := each (name, value) List.mem_cons_self
    exact ⟨[(name, read)], reads.lastEntry name, fun exact => by rw [same exact]⟩
  | cons next entries ih =>
    obtain ⟨nextName, nextValue⟩ := next
    obtain ⟨⟨read, reads, same⟩, each⟩ := List.forall_mem_cons.mp each
    obtain ⟨others, readsOthers, sameOthers⟩ := ih each
    refine ⟨(name, read) :: others, ?_, fun exact => by rw [same exact, sameOthers exact]⟩
    have more := reads.moreEntries name readsOthers
    simpa only [charsOfEntries, List.cons_append, List.append_assoc] using more

theorem readsBack_arr (each : ∀ item ∈ items, ReadsBack exact depth item) :
    ReadsBack exact (depth + 1) (.arr items) := by
  cases items with
  | nil => exact ⟨.arr [], reads_arr_nil depth, fun _ => rfl⟩
  | cons item items =>
    obtain ⟨reads, readsItems, same⟩ := readsItems_chars each
    exact ⟨.arr reads, readsItems.reads, fun exact => by rw [same exact]⟩

theorem readsBack_obj (ascending : (entries.map Prod.fst).Pairwise (· < ·))
    (each : ∀ entry ∈ entries, ReadsBack exact depth entry.2) :
    ReadsBack exact (depth + 1) (.obj entries) := by
  cases entries with
  | nil => exact ⟨.obj [], reads_obj_nil depth, fun _ => rfl⟩
  | cons entry entries =>
    obtain ⟨name, value⟩ := entry
    obtain ⟨reads, readsEntries, same⟩ := readsEntries_chars each
    refine ⟨ofEntries reads, ?_, fun exact => ?_⟩
    · simpa only [chars, List.cons_append, List.append_assoc] using readsEntries.reads
    · rw [same exact, ofEntries, sortEntries_of_ascending ascending]

/-- A document is read back if the doubles in it are; without doubles the same one comes back. -/
theorem Proper.readsBack
    (doubles : ∀ x, allowed x → ∀ depth, ∃ read, Reads depth (chars (.float x)) read)
    (proper : Proper allowed depth doc) : ReadsBack (∀ x, ¬ allowed x) depth doc := by
  induction proper with
  | null => exact ⟨.null, reads_null _, fun _ => rfl⟩
  | bool b => exact ⟨.bool b, reads_bool _ b, fun _ => rfl⟩
  | int least greatest => exact ⟨_, reads_int _ least greatest, fun _ => rfl⟩
  | @float depth x kind =>
    obtain ⟨read, reads⟩ := doubles x kind depth
    exact ⟨read, reads, fun none => absurd kind (none x)⟩
  | str s => exact ⟨.str s, reads_str _ s, fun _ => rfl⟩
  | arr _ each => exact readsBack_arr each
  | obj ascending _ each => exact readsBack_obj ascending each

theorem Reads.parse? (reads : Reads depthLimit doc.chars item) :
    parse? doc.render = some item := by
  obtain ⟨raw, meaning, read⟩ := reads
  have whole := read (show doc.chars.length ≤ 2 * doc.chars.length + 2 by omega) ends_nil
  rw [List.append_nil] at whole
  have input : Input.ofString doc.render = written doc.chars := by
    rw [Input.ofString, render, String.toList_ofList, written]
  rw [Json.parse?, input, parseInput?, Raw.parse?, length_written, whole]
  exact meaning

end Whole

theorem reads_float {x : Binary64} (finite : x.isFinite = true) (depth : Nat) :
    ∃ read, Reads depth (chars (.float x)) read := by
  obtain ⟨writable, text, some⟩ := readable_of_finite finite
  obtain ⟨read, meaning⟩ := Option.isSome_iff_exists.mp some
  refine ⟨read, ?_⟩
  rw [chars, text]
  exact writable.reads depth meaning

/-- A document that can be written as a text and read again. -/
abbrev Storable (doc : Json) : Prop := Proper (fun x => x.isFinite = true) depthLimit doc

/-- A document without doubles that can be written as a text and read again. -/
abbrev Exact (doc : Json) : Prop := Proper (fun _ => False) depthLimit doc

theorem Proper.imp {kind : Binary64 → Prop} (weaker : ∀ x, allowed x → kind x)
    (proper : Proper allowed depth doc) : Proper kind depth doc := by
  induction proper with
  | null => exact .null
  | bool b => exact .bool b
  | int least greatest => exact .int least greatest
  | float kind => exact .float (weaker _ kind)
  | str s => exact .str s
  | arr _ each => exact .arr each
  | obj ascending _ each => exact .obj ascending each

theorem Exact.storable (exact : Exact doc) : Storable doc := exact.imp fun _ => False.elim

/-- The text of a document is the text of some document. -/
theorem Storable.parse?_isSome (storable : Storable doc) : (parse? doc.render).isSome = true := by
  obtain ⟨read, reads, -⟩ := storable.readsBack fun _ finite depth => reads_float finite depth
  rw [reads.parse?]
  rfl

/-- The text of a document without doubles is the text of that document alone. -/
theorem Exact.parse? (exact : Exact doc) : Json.parse? doc.render = some doc := by
  obtain ⟨read, reads, same⟩ := exact.readsBack nofun
  rw [reads.parse?, same fun _ => id]

end Geoflow.Json
