import Mathlib.Data.List.TakeWhile
import Geoflow.Text.Blank

set_option autoImplicit false

namespace Geoflow.Text

def AllBlank (cs : List Char) : Prop := ∀ c ∈ cs, isBlank c = true

/-- A run of characters that no blank breaks. -/
structure IsField (cs : List Char) : Prop where
  nonempty : cs ≠ []
  unbroken : ∀ c ∈ cs, isBlank c = false

/-- A text that ends here or goes on with a blank. -/
def Parted (cs : List Char) : Prop := ∀ c ∈ cs.head?, isBlank c = true

/-- A text with these fields: any blanks around them, at least one between neighbours. -/
inductive Spells : List Char → List (List Char) → Prop
  | blank {cs : List Char} (blank : AllBlank cs) : Spells cs []
  | field {before field rest : List Char} {fields : List (List Char)} (blank : AllBlank before)
      (isField : IsField field) (parted : Parted rest) (later : Spells rest fields) :
      Spells (before ++ field ++ rest) (field :: fields)

variable {c : Char} {cs field rest before after : List Char} {fields : List (List Char)}

@[simp] theorem allBlank_nil : AllBlank [] := by simp [AllBlank]

theorem allBlank_cons : AllBlank (c :: cs) ↔ isBlank c = true ∧ AllBlank cs := by
  simp [AllBlank]

theorem AllBlank.append (blank : AllBlank before) (more : AllBlank after) :
    AllBlank (before ++ after) := by
  intro c mem
  exact (List.mem_append.mp mem).elim (blank c) (more c)

theorem AllBlank.parted (blank : AllBlank cs) : Parted cs :=
  fun c mem => blank c (List.mem_of_mem_head? mem)

theorem parted_iff : Parted cs ↔ (cs.head?.any fun d => !isBlank d) = false := by
  cases cs <;> simp [Parted]

@[simp] theorem consField_false (c : Char) (fields : List (List Char)) :
    consField c fields false = [c] :: fields := by
  cases fields <;> rfl

theorem fieldsFrom_append_of_blank (blank : AllBlank before) (cs : List Char) :
    fieldsFrom (before ++ cs) = fieldsFrom cs := by
  induction before with
  | nil => rfl
  | cons c before ih =>
    obtain ⟨first, others⟩ := allBlank_cons.mp blank
    rw [List.cons_append, fieldsFrom, if_pos first, ih others]

theorem fieldsFrom_append_of_isField (isField : IsField field) (parted : Parted rest) :
    fieldsFrom (field ++ rest) = field :: fieldsFrom rest := by
  obtain ⟨nonempty, unbroken⟩ := isField
  induction field with
  | nil => exact absurd rfl nonempty
  | cons c field ih =>
    have first : isBlank c = false := unbroken c List.mem_cons_self
    have others : ∀ d ∈ field, isBlank d = false := fun d mem =>
      unbroken d (List.mem_cons_of_mem c mem)
    rw [List.cons_append, fieldsFrom, if_neg (by simp [first])]
    cases field with
    | nil => rw [List.nil_append, parted_iff.mp parted, consField_false]
    | cons d field =>
      rw [ih (List.cons_ne_nil d field) others]
      simp [consField, others d List.mem_cons_self]

theorem Spells.fieldsFrom_eq (spells : Spells cs fields) : fieldsFrom cs = fields := by
  induction spells with
  | blank blank =>
    have empty := fieldsFrom_append_of_blank blank []
    rwa [List.append_nil] at empty
  | field blank isField parted later ih =>
    rw [List.append_assoc, fieldsFrom_append_of_blank blank,
      fieldsFrom_append_of_isField isField parted, ih]

theorem Spells.cons_blank (spells : Spells cs fields) (blank : isBlank c = true) :
    Spells (c :: cs) fields := by
  cases spells with
  | blank others => exact .blank (allBlank_cons.mpr ⟨blank, others⟩)
  | field others isField parted later =>
    exact .field (allBlank_cons.mpr ⟨blank, others⟩) isField parted later

/-- A character that is not blank goes on with the field behind it, or stands alone. -/
theorem Spells.cons_field (spells : Spells cs fields) (solid : isBlank c = false) :
    Spells (c :: cs) (consField c fields (cs.head?.any fun d => !isBlank d)) := by
  have alone : IsField [c] := ⟨by simp, by simpa using solid⟩
  by_cases parted : Parted cs
  · rw [parted_iff.mp parted, consField_false]
    exact .field allBlank_nil alone parted spells
  · cases spells with
    | blank blank => exact absurd blank.parted parted
    | @field before field rest fields blank isField ends later =>
      cases before with
      | cons d before => exact absurd (fun e mem => by simp_all [allBlank_cons]) parted
      | nil =>
        obtain ⟨nonempty, unbroken⟩ := isField
        cases field with
        | nil => exact absurd rfl nonempty
        | cons d field =>
          have goesOn : isBlank d = false := unbroken d List.mem_cons_self
          have longer : IsField (c :: d :: field) :=
            ⟨List.cons_ne_nil c (d :: field), List.forall_mem_cons.mpr ⟨solid, unbroken⟩⟩
          simpa [consField, goesOn] using Spells.field allBlank_nil longer ends later

theorem spells_fieldsFrom (cs : List Char) : Spells cs (fieldsFrom cs) := by
  induction cs with
  | nil => exact .blank allBlank_nil
  | cons c cs ih =>
    unfold fieldsFrom
    split
    next blank => exact ih.cons_blank blank
    next solid => exact ih.cons_field (by simpa using solid)

/-- The reader finds the fields of a text, whichever blanks part them. -/
theorem spells_iff : Spells cs fields ↔ fieldsFrom cs = fields := by
  constructor
  · exact Spells.fieldsFrom_eq
  · rintro rfl
    exact spells_fieldsFrom cs

theorem Spells.isField (spells : Spells cs fields) : ∀ field ∈ fields, IsField field := by
  induction spells with
  | blank blank => simp
  | field blank isField parted later ih => exact List.forall_mem_cons.mpr ⟨isField, ih⟩

theorem isField_of_mem (mem : field ∈ fieldsFrom cs) : IsField field :=
  (spells_fieldsFrom cs).isField field mem

theorem Parted.append (parted : Parted rest) (blank : AllBlank after) : Parted (rest ++ after) := by
  cases rest with
  | nil => exact blank.parted
  | cons c rest => exact parted

theorem Spells.append_blank (spells : Spells cs fields) (blank : AllBlank after) :
    Spells (cs ++ after) fields := by
  induction spells with
  | blank others => exact .blank (others.append blank)
  | field others isField parted later ih =>
    rw [List.append_assoc]
    exact .field others isField (parted.append blank) ih

/-- A text is blanks, what trimming leaves, and blanks. -/
theorem exists_around (cs : List Char) :
    ∃ before after, cs = before ++ trimmed cs ++ after ∧ AllBlank before ∧ AllBlank after := by
  have front : cs = cs.takeWhile isBlank ++ cs.dropWhile isBlank :=
    List.takeWhile_append_dropWhile.symm
  have back := List.takeWhile_append_dropWhile (p := isBlank) (l := (cs.dropWhile isBlank).reverse)
  refine ⟨cs.takeWhile isBlank, ((cs.dropWhile isBlank).reverse.takeWhile isBlank).reverse,
    ?_, fun c mem => List.mem_takeWhile_imp mem,
    fun c mem => List.mem_takeWhile_imp (List.mem_reverse.mp mem)⟩
  rw [List.append_assoc, trimmed, ← List.reverse_append, back, List.reverse_reverse]
  exact front

theorem fieldsFrom_trimmed (cs : List Char) : fieldsFrom (trimmed cs) = fieldsFrom cs := by
  obtain ⟨before, after, whole, blank, more⟩ := exists_around cs
  calc fieldsFrom (trimmed cs)
      = fieldsFrom (trimmed cs ++ after) :=
        ((spells_fieldsFrom (trimmed cs)).append_blank more).fieldsFrom_eq.symm
    _ = fieldsFrom (before ++ trimmed cs ++ after) := by
        rw [List.append_assoc, fieldsFrom_append_of_blank blank]
    _ = fieldsFrom cs := by rw [← whole]

/-- No blank stands at either end. -/
structure SolidEnds (cs : List Char) : Prop where
  first : ∀ c ∈ cs.head?, isBlank c = false
  last : ∀ c ∈ cs.getLast?, isBlank c = false

theorem head?_dropWhile_isBlank (cs : List Char) :
    ∀ c ∈ (cs.dropWhile isBlank).head?, isBlank c = false := by
  intro c first
  have solid := List.head?_dropWhile_not isBlank cs
  rwa [Option.mem_def.mp first] at solid

theorem solidEnds_trimmed (cs : List Char) : SolidEnds (trimmed cs) := by
  constructor
  · have front : trimmed cs <+: cs.dropWhile isBlank := by
      rw [← List.reverse_suffix, trimmed, List.reverse_reverse]
      exact List.dropWhile_suffix isBlank
    obtain ⟨rest, whole⟩ := front
    intro c first
    refine head?_dropWhile_isBlank cs c ?_
    rw [← whole, List.head?_append, Option.mem_def.mp first]
    rfl
  · rw [trimmed, List.getLast?_reverse]
    exact head?_dropWhile_isBlank _

theorem SolidEnds.trimmed_eq (ends : SolidEnds cs) : trimmed cs = cs := by
  have kept : ∀ {ds : List Char}, (∀ c ∈ ds.head?, isBlank c = false) →
      ds.dropWhile isBlank = ds := by
    intro ds solid
    cases ds with
    | nil => rfl
    | cons d ds => exact List.dropWhile_cons_of_neg (by simp [solid d rfl])
  rw [trimmed, kept ends.first, kept (by rw [List.head?_reverse]; exact ends.last),
    List.reverse_reverse]

theorem trimmed_trimmed (cs : List Char) : trimmed (trimmed cs) = trimmed cs :=
  (solidEnds_trimmed cs).trimmed_eq

theorem trim_trim (s : String) : trim (trim s) = trim s := by
  rw [trim, trim, String.toList_ofList, trimmed_trimmed]

/-- The first character that is left is the first one of the first field. -/
theorem head?_trimmed (cs : List Char) :
    (trimmed cs).head? = (fieldsFrom cs).head?.bind List.head? := by
  rw [← fieldsFrom_trimmed]
  have solid := (solidEnds_trimmed cs).first
  generalize trimmed cs = ds at solid
  cases ds with
  | nil => rfl
  | cons d ds =>
    rw [fieldsFrom, if_neg (by simp [solid d rfl])]
    generalize (ds.head?.any fun e => !isBlank e) = goesOn
    cases fieldsFrom ds <;> cases goesOn <;> rfl

theorem spells_joined (each : ∀ field ∈ fields, IsField field) :
    Spells (joined [' '] fields) fields := by
  induction fields with
  | nil => exact .blank allBlank_nil
  | cons field fields ih =>
    obtain ⟨isField, others⟩ := List.forall_mem_cons.mp each
    cases fields with
    | nil =>
      have whole := Spells.field allBlank_nil isField allBlank_nil.parted (.blank allBlank_nil)
      rwa [List.nil_append, List.append_nil] at whole
    | cons next fields =>
      have later := (ih others).cons_blank (c := ' ') rfl
      have parted : Parted (' ' :: joined [' '] (next :: fields)) := by simp [Parted, isBlank]
      simpa [joined] using Spells.field allBlank_nil isField parted later

end Geoflow.Text
