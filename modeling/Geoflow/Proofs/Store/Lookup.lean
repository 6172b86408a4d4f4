import Geoflow.Proofs.Store.Table

set_option autoImplicit false

namespace Geoflow.Table

variable {ρ : Type} {t : Table ρ} {row : ρ} {id other : Int64} {change : ρ → ρ}

/-- A table that nobody has blocked, with its rows in the order of their numbers. -/
structure Sound (t : Table ρ) : Prop extends t.Numbered where
  free : t.blocked = false

/-- There are numbers left to give out. -/
abbrev HasRoom (t : Table ρ) : Prop := t.issued < greatestId

def nextId (t : Table ρ) : Int64 := Int64.ofNat (t.issued + 1)

def get? (t : Table ρ) (id : Int64) : Option ρ := (t.find? id).map Prod.snd

def push (t : Table ρ) (row : ρ) : Table ρ :=
  { t with rows := t.rows ++ [(t.issued + 1, row)], issued := t.issued + 1 }

/-- The table with the row of a number changed. -/
def alter (t : Table ρ) (id : Int64) (change : ρ → ρ) : Table ρ :=
  { t with rows := t.rows.map fun row => if isId row.1 id then (row.1, change row.2) else row }

def remove (t : Table ρ) (id : Int64) : Table ρ :=
  { t with rows := t.rows.filter fun row => !isId row.1 id }

theorem toInt_ofNat {key : Nat} (inRange : key ≤ greatestId) : (Int64.ofNat key).toInt = key :=
  Int64.toInt_ofNat_of_lt (Nat.lt_of_le_of_lt inRange greatestId_lt)

theorem toInt_nextId (room : t.HasRoom) : t.nextId.toInt = t.issued + 1 := by
  rw [nextId, toInt_ofNat (Nat.succ_le_of_lt room), Int.natCast_succ]

@[simp] theorem issued_push : (t.push row).issued = t.issued + 1 := rfl

theorem Sound.empty : Sound ({} : Table ρ) := ⟨.empty, rfl⟩

/-- A number is asked for by one row at most, and by one exactly if it finds a row. -/
theorem countP_pos_iff : 0 < t.rows.countP (fun row => isId row.1 id) ↔ (t.get? id).isSome := by
  rw [List.countP_pos_iff, get?, Option.isSome_map, find?, List.find?_isSome]

namespace Sound

variable (sound : t.Sound)
include sound

theorem not_blocked : ¬ t.blocked = true := Bool.eq_false_iff.mp sound.free

theorem insert_of_room (room : t.HasRoom) : t.insert row = (t.push row, .ok (t.issued + 1)) := by
  rw [Table.insert, if_neg sound.not_blocked, if_pos room]
  rfl

theorem insert_of_full (full : ¬ t.HasRoom) : t.insert row = (t, .error .full) := by
  rw [Table.insert, if_neg sound.not_blocked, if_neg full]

theorem update_eq (id : Int64) (change : ρ → ρ) :
    ∃ hits, t.update id change = (t.alter id change, .ok hits) ∧
      (0 < hits ↔ (t.get? id).isSome) := by
  refine ⟨_, ?_, countP_pos_iff⟩
  have free : ¬ (0 < t.rows.countP (fun row => isId row.1 id) ∧ t.blocked) :=
    fun refused => sound.not_blocked refused.2
  simp only [update, if_neg free]
  rfl

theorem delete_eq (id : Int64) :
    ∃ hits, (t.delete fun key _ => isId key id) = (t.remove id, .ok hits) ∧
      (0 < hits ↔ (t.get? id).isSome) := by
  refine ⟨_, ?_, countP_pos_iff⟩
  have free : ¬ (0 < t.rows.countP (fun row => isId row.1 id) ∧ t.blocked) :=
    fun refused => sound.not_blocked refused.2
  simp only [delete, if_neg free]
  rfl

theorem push (room : t.HasRoom) (row : ρ) : (t.push row).Sound := by
  have numbered := sound.toNumbered.insert row
  rw [sound.insert_of_room room] at numbered
  exact ⟨numbered, sound.free⟩

theorem alter (id : Int64) (change : ρ → ρ) : (t.alter id change).Sound := by
  have keys : (t.alter id change).rows.map Prod.fst = t.rows.map Prod.fst := by
    rw [Table.alter, List.map_map]
    refine List.map_congr_left fun row _ => ?_
    dsimp only [Function.comp_apply]
    split <;> rfl
  refine ⟨⟨?_, ?_, sound.room⟩, sound.free⟩
  · have ascending := List.pairwise_map.mpr sound.ascending
    rw [← keys] at ascending
    exact List.pairwise_map.mp ascending
  · intro row mem
    have key : row.1 ∈ t.rows.map Prod.fst := keys ▸ List.mem_map_of_mem mem
    obtain ⟨old, oldMem, same⟩ := List.mem_map.mp key
    exact same ▸ sound.given old oldMem

theorem remove (id : Int64) : (t.remove id).Sound where
  ascending := sound.ascending.filter _
  given row mem := sound.given row (List.mem_of_mem_filter mem)
  room := sound.room
  free := sound.free

theorem isId_row {row : Nat × ρ} (mem : row ∈ t.rows) :
    isId row.1 id = true ↔ Int64.ofNat row.1 = id :=
  isId_iff (Nat.le_trans (sound.given row mem) sound.room)

theorem get?_eq_some_iff :
    t.get? id = some row ↔ ∃ key, (key, row) ∈ t.rows ∧ Int64.ofNat key = id := by
  rw [get?, Option.map_eq_some_iff]
  constructor
  · rintro ⟨⟨key, own⟩, found, rfl⟩
    exact ⟨key, sound.find?_eq_some_iff.mp found⟩
  · rintro ⟨key, mem, isKey⟩
    exact ⟨(key, row), sound.find?_eq_some_iff.mpr ⟨mem, isKey⟩, rfl⟩

theorem find?_of_get? (found : t.get? id = some row) :
    ∃ key, t.find? id = some (key, row) ∧ Int64.ofNat key = id := by
  obtain ⟨key, mem, isKey⟩ := sound.get?_eq_some_iff.mp found
  exact ⟨key, sound.find?_eq_some_iff.mpr ⟨mem, isKey⟩, isKey⟩

/-- The row of a number is the only one that its number picks. -/
theorem filter_of_get? (found : t.get? id = some row) :
    ∃ key, t.rows.filter (fun row => Int64.ofNat row.1 == id) = [(key, row)] ∧
      Int64.ofNat key = id := by
  obtain ⟨key, mem, isKey⟩ := sound.get?_eq_some_iff.mp found
  have alone : ∀ other ∈ t.rows, Int64.ofNat other.1 = id → other.1 = key := by
    intro other otherMem isOther
    have asked := (sound.isId_row otherMem).mpr isOther
    have askedKey := (sound.isId_row mem).mpr isKey
    rw [isId, beq_iff_eq] at asked askedKey
    exact Int.ofNat_inj.mp (asked.trans askedKey.symm)
  obtain ⟨front, back, parts⟩ := List.append_of_mem mem
  have ascending := sound.ascending
  rw [parts, List.pairwise_append, List.pairwise_cons] at ascending
  obtain ⟨-, ⟨behind, -⟩, before⟩ := ascending
  refine ⟨key, ?_, isKey⟩
  have noFront : front.filter (fun row => Int64.ofNat row.1 == id) = [] := by
    refine List.filter_eq_nil_iff.mpr fun other otherMem passes => ?_
    have same := alone other (parts ▸ List.mem_append_left _ otherMem) (beq_iff_eq.mp passes)
    exact absurd same (Nat.ne_of_lt (before other otherMem _ List.mem_cons_self))
  have noBack : back.filter (fun row => Int64.ofNat row.1 == id) = [] := by
    refine List.filter_eq_nil_iff.mpr fun other otherMem passes => ?_
    have same := alone other
      (parts ▸ List.mem_append_right _ (List.mem_cons_of_mem _ otherMem)) (beq_iff_eq.mp passes)
    exact absurd same (Nat.ne_of_gt (behind other otherMem))
  rw [parts, List.filter_append, List.filter_cons, noFront, noBack, if_pos (beq_iff_eq.mpr isKey)]
  rfl

theorem get?_nextId (room : t.HasRoom) : t.get? t.nextId = none := by
  rw [Option.eq_none_iff_forall_ne_some]
  intro row found
  obtain ⟨key, mem, isKey⟩ := sound.get?_eq_some_iff.mp found
  have below : key ≤ t.issued := sound.given _ mem
  have keyInt := toInt_ofNat (Nat.le_trans below sound.room)
  rw [isKey, toInt_nextId room] at keyInt
  omega

theorem get?_push (room : t.HasRoom) (row : ρ) (id : Int64) :
    (t.push row).get? id = if id = t.nextId then some row else t.get? id := by
  split
  · rename_i isNext
    subst isNext
    refine (sound.push room row).get?_eq_some_iff.mpr ⟨t.issued + 1, ?_, rfl⟩
    exact List.mem_append_right _ List.mem_cons_self
  · rename_i notNext
    refine Option.ext fun found => ?_
    rw [(sound.push room row).get?_eq_some_iff, sound.get?_eq_some_iff]
    refine exists_congr fun key => and_congr_left fun isKey => ?_
    rw [Table.push, List.mem_append, List.mem_singleton, or_iff_left_iff_imp]
    intro fresh
    cases fresh
    exact absurd isKey.symm notNext

theorem get?_alter (id : Int64) (change : ρ → ρ) (other : Int64) :
    (t.alter id change).get? other =
      if other = id then (t.get? other).map change else t.get? other := by
  refine Option.ext fun found => ?_
  rw [(sound.alter id change).get?_eq_some_iff]
  simp only [Table.alter, List.mem_map]
  split
  · rename_i same
    subst same
    simp only [Option.map_eq_some_iff, sound.get?_eq_some_iff]
    constructor
    · rintro ⟨key, ⟨old, mem, changed⟩, isKey⟩
      have keyOf : old.1 = key := by
        split at changed
        · exact congrArg Prod.fst changed
        · exact congrArg Prod.fst changed
      have asked : isId old.1 other = true := (sound.isId_row mem).mpr (keyOf ▸ isKey)
      rw [if_pos asked] at changed
      exact ⟨old.2, ⟨key, keyOf ▸ mem, isKey⟩, congrArg Prod.snd changed⟩
    · rintro ⟨old, ⟨key, mem, isKey⟩, rfl⟩
      have asked : isId key other = true := (sound.isId_row mem).mpr isKey
      exact ⟨key, ⟨(key, old), mem, if_pos asked⟩, isKey⟩
  · rename_i apart
    rw [sound.get?_eq_some_iff]
    refine exists_congr fun key => and_congr_left fun isKey => ?_
    constructor
    · rintro ⟨old, mem, changed⟩
      split at changed
      · rename_i asked
        have keyOf : old.1 = key := congrArg Prod.fst changed
        exact absurd (isKey.symm.trans (keyOf ▸ (sound.isId_row mem).mp asked)) apart
      · exact changed ▸ mem
    · intro mem
      have unasked : ¬ isId key id = true :=
        fun asked => apart (isKey.symm.trans ((sound.isId_row mem).mp asked))
      exact ⟨(key, found), mem, if_neg unasked⟩

theorem get?_remove (id other : Int64) :
    (t.remove id).get? other = if other = id then none else t.get? other := by
  refine Option.ext fun found => ?_
  rw [(sound.remove id).get?_eq_some_iff]
  simp only [Table.remove, List.mem_filter, Bool.not_eq_true']
  split
  · rename_i same
    subst same
    simp only [reduceCtorEq, iff_false, not_exists]
    rintro key ⟨⟨mem, kept⟩, isKey⟩
    rw [(sound.isId_row mem).mpr isKey] at kept
    cases kept
  · rename_i apart
    rw [sound.get?_eq_some_iff]
    refine exists_congr fun key => and_congr_left fun isKey => and_iff_left_of_imp fun mem => ?_
    exact Bool.eq_false_iff.mpr
      fun asked => apart (isKey.symm.trans ((sound.isId_row mem).mp asked))

theorem not_isId_of_none (missing : t.get? id = none) {row : Nat × ρ} (mem : row ∈ t.rows) :
    ¬ isId row.1 id = true := by
  intro asked
  have found := sound.get?_eq_some_iff.mpr ⟨row.1, mem, (sound.isId_row mem).mp asked⟩
  cases missing.symm.trans found

/-- A number that finds nothing changes nothing. -/
theorem alter_of_none (missing : t.get? id = none) : t.alter id change = t := by
  have same : t.rows.map (fun row => if isId row.1 id then (row.1, change row.2) else row) =
      t.rows.map fun row => row :=
    List.map_congr_left fun row mem => if_neg (sound.not_isId_of_none missing mem)
  rw [Table.alter, same, List.map_id']

theorem remove_of_none (missing : t.get? id = none) : t.remove id = t := by
  have kept : t.rows.filter (fun row => !isId row.1 id) = t.rows := by
    refine List.filter_eq_self.mpr fun row mem => ?_
    rw [Bool.not_eq_true', Bool.eq_false_iff]
    exact sound.not_isId_of_none missing mem
  rw [Table.remove, kept]

end Sound

end Geoflow.Table
