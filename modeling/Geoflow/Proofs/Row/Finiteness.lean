import Geoflow.Proofs.Json.Entry
import Geoflow.Proofs.Row.LeadingNumber
import Geoflow.Row.Basic
import Geoflow.Validation.Remote

set_option autoImplicit false

namespace Geoflow

open Decimal (Literal)
open Binary64 (overflow)

namespace SqlValue

/-- Something follows the longest literal in front of a text, and the double of that literal is
infinite. -/
def Spills (cs : List Char) : Prop :=
  ∃ l : Literal, IsLongest (Text.trimmed cs) l ∧ l.chars ≠ Text.trimmed cs ∧ overflow ≤ |l.value|

/-- A value whose coercion to a number is none. -/
def NoNumber : SqlValue → Prop
  | .float x => x.isFinite = false
  | .text s => Spills s.toList
  | .bytes b => Spills (Utf8.decodeLossy b)
  | _ => False

theorem parseLenient_of_spills {cs : List Char} (spills : Spills cs) :
    ∃ negative, parseLenient cs = .infinity negative := by
  obtain ⟨l, longest, more, infinite⟩ := spills
  obtain ⟨absent, -⟩ | ⟨other, otherLongest, value⟩ := parseLenient_cases cs
  · exact absurd longest.starts (absent l)
  · rw [longest.chars_eq otherLongest] at more
    rw [if_neg fun both => more both.1, ← longest.decimal_eq otherLongest] at value
    exact ⟨l.sign.isMinus, value.trans (l.rounds.eq_infinity infinite)⟩

theorem parseLenient_of_not_spills {cs : List Char} (spares : ¬ Spills cs) :
    (parseLenient cs).isFinite = true := by
  have zero : (Binary64.zero false).isFinite = true := by decide
  obtain ⟨-, value⟩ | ⟨l, longest, value⟩ := parseLenient_cases cs
  · rw [value]
    exact zero
  · rw [value]
    split
    · exact zero
    · rename_i broken
      refine Bool.not_eq_false _ |>.mp fun infinite => ?_
      have more : l.chars ≠ Text.trimmed cs := fun whole => broken ⟨whole, infinite⟩
      rw [← Bool.not_eq_true, l.rounds.isFinite_iff, not_lt] at infinite
      exact spares ⟨l, longest, more, infinite⟩

theorem parseLenient_isFinite_iff (cs : List Char) :
    (parseLenient cs).isFinite = true ↔ ¬ Spills cs := by
  refine ⟨fun finite spills => ?_, parseLenient_of_not_spills⟩
  obtain ⟨negative, value⟩ := parseLenient_of_spills spills
  have infinite : (Binary64.infinity negative).isFinite = false := by cases negative <;> decide
  rw [value, infinite] at finite
  cases finite

/-- Only what `NoNumber` lists coerces to an infinity or NaN. -/
theorem asBinary64_isFinite_iff (v : SqlValue) : v.asBinary64.isFinite = true ↔ ¬ v.NoNumber := by
  have zero : (Binary64.zero false).isFinite = true := by decide
  cases v with
  | null => exact iff_of_true zero id
  | bool b => exact iff_of_true zero id
  | int n =>
    have least := Int64.le_toInt n
    have most := Int64.toInt_lt n
    exact iff_of_true (Binary64.isFinite_ofInt (by omega)) id
  | float x => exact (Iff.of_eq (Bool.not_eq_false _)).symm
  | text s => exact parseLenient_isFinite_iff s.toList
  | bytes b => exact parseLenient_isFinite_iff (Utf8.decodeLossy b)

end SqlValue

def Row.value (row : Row) (name : String) : SqlValue := (row.get? name).getD .null

/-- An entry of the record in a request for validation. -/
def RemoteValidation.written (name : String) (ownerId : Int64) (record : CanonicalRecord) :
    Option Json :=
  ((body ownerId record).get? "record").bind (·.get? name)

theorem RemoteValidation.written_eq (name : String) (ownerId : Int64) (record : CanonicalRecord) :
    written name ownerId record = record.toJson.get? name := by
  have entry : (body ownerId record).get? "record" = some record.toJson := by
    rw [body, Json.get?_ofEntries]
    rfl
  rw [written, entry, Option.bind_some]

/-- A coordinate from a value: a number, and a number in every request, unless the value is none. -/
structure IsCoordinate (v : SqlValue) (x : Binary64) (written : Int64 → Option Json) : Prop where
  finite : x.isFinite = true ↔ ¬ v.NoNumber
  number : ∀ ownerId, ¬ v.NoNumber → written ownerId = some (.float x)
  null : ∀ ownerId, v.NoNumber → written ownerId = some .null

theorem isCoordinate_of_written {v : SqlValue} {written : Int64 → Option Json}
    (entry : ∀ ownerId, written ownerId = some (.ofBinary64 v.asBinary64)) :
    IsCoordinate v v.asBinary64 written where
  finite := v.asBinary64_isFinite_iff
  number := by
    intro ownerId number
    rw [entry, Json.ofBinary64, if_pos (v.asBinary64_isFinite_iff.mpr number)]
  null := by
    intro ownerId none
    rw [entry, Json.ofBinary64, if_neg fun finite => v.asBinary64_isFinite_iff.mp finite none]

open RemoteValidation (written) in
/-- The coercion of a value, and with it a coordinate of a row, is a number unless a text spills an
infinite literal or the database itself delivered no number. -/
theorem coordinates_finite_iff (v : SqlValue) (row : Row) :
    (v.asBinary64.isFinite = true ↔ ¬ v.NoNumber) ∧
      IsCoordinate (row.value "latitude") row.toCanonical.latitude
        (written "latitude" · row.toCanonical) ∧
      IsCoordinate (row.value "longitude") row.toCanonical.longitude
        (written "longitude" · row.toCanonical) := by
  refine ⟨v.asBinary64_isFinite_iff, ?_, ?_⟩
  all_goals
    refine isCoordinate_of_written fun ownerId => ?_
    rw [RemoteValidation.written_eq, CanonicalRecord.toJson, Json.get?_ofEntries]
    rfl

theorem coordinates_finite_iff_spilled :
    (SqlValue.text "-1e400 deg").NoNumber ∧
      RemoteValidation.written "latitude" 7
        (Row.mk [("latitude", .text "-1e400 deg")]).toCanonical = some .null := by
  obtain ⟨finite, latitude, -⟩ := coordinates_finite_iff (.text "-1e400 deg")
    (Row.mk [("latitude", .text "-1e400 deg")])
  have infinite : ¬ (SqlValue.text "-1e400 deg").asBinary64.isFinite = true := by decide +kernel
  rw [finite, not_not] at infinite
  exact ⟨infinite, latitude.null 7 infinite⟩

/-- A literal beyond the doubles, with a letter behind it. -/
theorem spilled_literal_infinite :
    (SqlValue.text "1e999x").asBinary64.isFinite = false ∧
      RemoteValidation.written "latitude" 7 (Row.mk [("latitude", .text "1e999x")]).toCanonical =
        some .null := by
  exact ⟨by decide +kernel, rfl⟩

end Geoflow
