import Geoflow.Proofs.Outcome
import Geoflow.Proofs.Text.Fields
import Geoflow.Schedule.Scheduler

set_option autoImplicit false

namespace Geoflow.Cron

/-- A shorthand starts with an at sign, once the blanks in front of it are gone. -/
def IsShorthand (s : String) : Prop := (Text.trimmed s.toList).head? = some '@'

instance (s : String) : Decidable (IsShorthand s) := inferInstanceAs (Decidable (_ = _))

/-- As many fields as a schedule has, with the seconds or without them. -/
def Counted (fields : List (List Char)) : Prop := fields.length = 5 ∨ fields.length = 6

instance (fields : List (List Char)) : Decidable (Counted fields) :=
  inferInstanceAs (Decidable (_ ∨ _))

def refusal (s : String) : Fault :=
  if Text.fieldsFrom s.toList = [] then .empty
  else .fieldCount (Text.fieldsFrom s.toList).length (Text.trim s)

variable {s t out : String} {fields : List (List Char)}

theorem length_withSeconds (counted : Counted fields) : (withSeconds fields).length = 6 := by
  unfold withSeconds
  split
  next five => rw [List.length_cons, five]
  next other => exact counted.resolve_left other

theorem withSeconds_of_length_eq_six (six : fields.length = 6) : withSeconds fields = fields := by
  rw [withSeconds, if_neg (by omega)]

theorem isField_withSeconds (each : ∀ field ∈ fields, Text.IsField field) :
    ∀ field ∈ withSeconds fields, Text.IsField field := by
  have zero : Text.IsField ['0'] := ⟨by simp, by simp [Text.isBlank]⟩
  unfold withSeconds
  split
  · exact List.forall_mem_cons.mpr ⟨zero, each⟩
  · exact each

theorem counted_iff_length_withSeconds : Counted fields ↔ (withSeconds fields).length = 6 := by
  refine ⟨length_withSeconds, fun six => ?_⟩
  unfold withSeconds at six
  split at six
  next five => exact Or.inl five
  next => exact Or.inr six

/-- Whether a text is a shorthand is seen from its first field. -/
theorem isShorthand_iff :
    IsShorthand s ↔ (Text.fieldsFrom s.toList).head?.bind List.head? = some '@' := by
  rw [IsShorthand, Text.head?_trimmed]

theorem normalize_of_isShorthand (shorthand : IsShorthand s) :
    normalize s = .ok (Text.trim s) := by
  obtain ⟨rest, whole⟩ := List.head?_eq_some_iff.mp shorthand
  rw [normalize, normalChars, Text.trim]
  simp only [whole]
  rfl

theorem normalize_of_not_isShorthand (plain : ¬ IsShorthand s) :
    normalize s =
      if Counted (Text.fieldsFrom s.toList) then
        .ok (String.ofList (Text.joined [' '] (withSeconds (Text.fieldsFrom s.toList))))
      else .error (refusal s) := by
  have first := Text.head?_trimmed s.toList
  rw [normalize, normalChars]
  simp only [Text.fieldsFrom_trimmed]
  split
  next empty =>
    have none : Text.fieldsFrom s.toList = [] := by
      rw [← Text.fieldsFrom_trimmed, empty, Text.fieldsFrom]
    simp [none, refusal, Counted, Except.map]
  next rest whole => exact absurd (by rw [IsShorthand, whole]; rfl) plain
  next nonempty _ =>
    have some : Text.fieldsFrom s.toList ≠ [] := by
      intro none
      rw [none] at first
      exact nonempty (List.head?_eq_none_iff.mp first)
    by_cases counted : Counted (Text.fieldsFrom s.toList)
    · rw [if_pos counted]
      unfold Counted at counted
      rw [if_pos counted]
      rfl
    · rw [if_neg counted]
      unfold Counted at counted
      rw [if_neg counted, refusal, if_neg some, Text.trim]
      rfl

/-- What is written for a text that is no shorthand: the fields with seconds, and nothing else. -/
structure Written (fields : List (List Char)) (out : String) : Prop where
  spelled : out.toList = Text.joined [' '] (withSeconds fields)
  read : ∀ others, Text.Spells out.toList others ↔ others = withSeconds fields
  six : (withSeconds fields).length = 6

theorem written_iff (plain : ¬ IsShorthand s) :
    normalize s = .ok out ↔ Written (Text.fieldsFrom s.toList) out := by
  have given : ∀ field ∈ Text.fieldsFrom s.toList, Text.IsField field :=
    fun field => Text.isField_of_mem
  have each := isField_withSeconds given
  rw [normalize_of_not_isShorthand plain]
  constructor
  · intro done
    split at done
    next counted =>
      cases done
      refine ⟨String.toList_ofList, fun others => ?_, length_withSeconds counted⟩
      rw [String.toList_ofList, Text.spells_iff, (Text.spells_joined each).fieldsFrom_eq, eq_comm]
    next => cases done
  · rintro ⟨spelled, -, six⟩
    rw [if_pos (counted_iff_length_withSeconds.mpr six), ← spelled, String.ofList_toList]

/-- The fields with seconds decide what is written, and are decided by it. -/
theorem Written.iff_eq (written : Written (Text.fieldsFrom s.toList) out) :
    Written (Text.fieldsFrom t.toList) out ↔
      withSeconds (Text.fieldsFrom s.toList) = withSeconds (Text.fieldsFrom t.toList) := by
  constructor
  · intro other
    exact (other.read _).mp ((written.read _).mpr rfl)
  · intro same
    obtain ⟨spelled, read, six⟩ := written
    rw [same] at spelled read six
    exact ⟨spelled, read, six⟩

theorem Written.fieldsFrom_eq (written : Written fields out) :
    Text.fieldsFrom out.toList = withSeconds fields :=
  (written.read _).mp (Text.spells_fieldsFrom out.toList)

/-- Neither a first field that was given nor the zero makes a shorthand. -/
theorem Written.not_isShorthand (written : Written (Text.fieldsFrom s.toList) out)
    (plain : ¬ IsShorthand s) : ¬ IsShorthand out := by
  rw [isShorthand_iff] at plain ⊢
  rw [written.fieldsFrom_eq, withSeconds]
  split
  · simp
  · exact plain

theorem IsShorthand.trim (shorthand : IsShorthand s) : IsShorthand (Text.trim s) := by
  rwa [IsShorthand, Text.trim, String.toList_ofList, Text.trimmed_trimmed]

theorem normalize_normalize (done : normalize s = .ok out) : normalize out = .ok out := by
  by_cases shorthand : IsShorthand s
  · rw [normalize_of_isShorthand shorthand] at done
    cases done
    rw [normalize_of_isShorthand shorthand.trim, Text.trim_trim]
  · have written := (written_iff shorthand).mp done
    have same : withSeconds (Text.fieldsFrom s.toList) =
        withSeconds (Text.fieldsFrom out.toList) := by
      rw [written.fieldsFrom_eq, withSeconds_of_length_eq_six written.six]
    exact (written_iff (written.not_isShorthand shorthand)).mpr (written.iff_eq.mpr same)

theorem exists_normalize_iff :
    (∃ out, normalize s = .ok out) ↔ IsShorthand s ∨ Counted (Text.fieldsFrom s.toList) := by
  by_cases shorthand : IsShorthand s
  · simp [normalize_of_isShorthand shorthand, shorthand]
  · rw [normalize_of_not_isShorthand shorthand]
    split
    next counted => simp [counted]
    next other => simp [shorthand, other]

theorem normalize_of_allBlank (blank : Text.AllBlank s.toList) : normalize s = .error .empty := by
  have none : Text.fieldsFrom s.toList = [] := (Text.Spells.blank blank).fieldsFrom_eq
  have plain : ¬ IsShorthand s := by simp [isShorthand_iff, none]
  rw [normalize_of_not_isShorthand plain, none, if_neg (by simp [Counted]), refusal, if_pos none]

/-- The six fields of a schedule: those that are given, or a zero for the seconds and five more. -/
inductive Completed : List (List Char) → List (List Char) → Prop
  | given {fields : List (List Char)} (six : fields.length = 6) : Completed fields fields
  | seconds {fields : List (List Char)} (five : fields.length = 5) :
      Completed fields (['0'] :: fields)

theorem completed_withSeconds (six : (withSeconds fields).length = 6) :
    Completed fields (withSeconds fields) := by
  unfold withSeconds at six ⊢
  split at six
  next five =>
    rw [if_pos five]
    exact .seconds five
  next other =>
    rw [if_neg other]
    exact .given six

theorem Completed.eq_withSeconds {full : List (List Char)} (completed : Completed fields full) :
    full = withSeconds fields := by
  cases completed with
  | given six => rw [withSeconds_of_length_eq_six six]
  | seconds five => rw [withSeconds, if_pos five]

/-- What normalizing does with a text, by the fields of the text. -/
structure Normalizes (s : String) (fields : List (List Char)) : Prop where
  taken : (∃ out, normalize s = .ok out) ↔
    IsShorthand s ∨ fields.length = 5 ∨ fields.length = 6
  blank : Text.AllBlank s.toList → normalize s = .error .empty
  /-- A refused text is no schedule, and leaves the scheduler as it was. -/
  refused : ∀ fault, normalize s = .error fault → ∀ policy (scheduler : Scheduler) job,
    scheduler.register policy job s = (scheduler, .error (.invalid fault)) ∧
      (ScheduleError.invalid fault).code = "INVALID_SCHEDULE"
  again : ∀ out, normalize s = .ok out → normalize out = .ok out
  shorthand : IsShorthand s → normalize s = .ok (Text.trim s)
  written : ¬ IsShorthand s → ∀ out, normalize s = .ok out → ∃ full, Completed fields full ∧
    out.toList = Text.joined [' '] full ∧
    ∀ others, Text.Spells out.toList others ↔ others = full
  /-- Which blanks part the fields, and how many, never matters. -/
  alike : ¬ IsShorthand s → ∀ t, Text.Spells t.toList fields →
    ¬ IsShorthand t ∧ ∀ out, normalize t = .ok out ↔ normalize s = .ok out
  /-- One result comes from one list of fields, up to the zero for the seconds. -/
  same : ¬ IsShorthand s → ∀ out, normalize s = .ok out →
    ∀ t others, Text.Spells t.toList others → ¬ IsShorthand t →
      (normalize t = .ok out ↔ ∃ full, Completed fields full ∧ Completed others full)

/-- Every text has one list of fields, and these decide its normal form. -/
theorem normalize_by_fields (s : String) :
    ∃ fields, (∀ others, Text.Spells s.toList others ↔ others = fields) ∧
      Normalizes s fields := by
  refine ⟨Text.fieldsFrom s.toList, fun others => by rw [Text.spells_iff, eq_comm], ?_⟩
  constructor
  case taken => exact exists_normalize_iff
  case blank => exact normalize_of_allBlank
  case refused =>
    intro fault refused policy scheduler job
    rw [Scheduler.register, refused]
    exact ⟨rfl, rfl⟩
  case again => exact fun out => normalize_normalize
  case shorthand => exact normalize_of_isShorthand
  case written =>
    intro plain out done
    obtain ⟨spelled, read, six⟩ := (written_iff plain).mp done
    exact ⟨_, completed_withSeconds six, spelled, read⟩
  case alike =>
    intro plain t spelled
    have fields := spelled.fieldsFrom_eq
    have plainly : ¬ IsShorthand t := by rwa [isShorthand_iff, fields, ← isShorthand_iff]
    refine ⟨plainly, fun out => ?_⟩
    rw [written_iff plain, written_iff plainly, fields]
  case same =>
    intro plain out done t others spelled plainly
    have written := (written_iff plain).mp done
    rw [← spelled.fieldsFrom_eq, written_iff plainly, written.iff_eq]
    constructor
    · intro same
      have completed := completed_withSeconds written.six
      refine ⟨_, completed, ?_⟩
      rw [same] at completed ⊢
      exact completed_withSeconds (same ▸ written.six)
    · rintro ⟨full, here, there⟩
      rw [← here.eq_withSeconds, there.eq_withSeconds]

/-- Fields behind any blanks, and the zero in front. -/
example : normalize "\u2003 0 2 \t * * 1\n" = .ok "0 0 2 * * 1" := by decide

end Geoflow.Cron
