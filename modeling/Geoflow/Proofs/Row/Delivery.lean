import Geoflow.Cell.MySql
import Geoflow.Proofs.Text.Lossy
import Mathlib.Data.List.Forall2

set_option autoImplicit false

namespace Geoflow

namespace SqlValue

/-- Two values with the same coercions. -/
structure CoercesLike (v w : SqlValue) : Prop where
  number : v.asBinary64 = w.asBinary64
  text : v.asText = w.asText
  json : v.toJson = w.toJson

theorem CoercesLike.refl (v : SqlValue) : v.CoercesLike v := ⟨rfl, rfl, rfl⟩

theorem coercesLike_of_lossy {b : List UInt8} {t : List Char} (lossy : Utf8.Lossy b t) :
    (SqlValue.bytes b).CoercesLike (.text (String.ofList t)) := by
  rw [Utf8.lossy_iff] at lossy
  subst lossy
  refine ⟨?_, rfl, rfl⟩
  rw [asBinary64, asBinary64, String.toList_ofList]

/-- The value from a driver that delivers text as octets. -/
def asOctets : SqlValue → SqlValue
  | .text s => .bytes (Utf8.encode s.toList)
  | other => other

theorem asOctets_coercesLike (v : SqlValue) : v.asOctets.CoercesLike v := by
  cases v with
  | text s =>
    have whole : Utf8.Lossy (Utf8.encode s.toList) s.toList := by
      rw [Utf8.lossy_iff, Utf8.decodeLossy_encode]
    have alike := coercesLike_of_lossy whole
    rwa [String.ofList_toList] at alike
  | null => exact .refl _
  | int n => exact .refl _
  | float x => exact .refl _
  | bytes b => exact .refl _
  | bool b => exact .refl _

end SqlValue

/-- A text column without a character set holds text where its octets are text. -/
theorem MySql.textOrBytes_coercesLike (b : List UInt8) :
    (MySql.textOrBytes b).CoercesLike (.bytes b) := by
  unfold MySql.textOrBytes Cell.textValue
  cases read : Utf8.decode b with
  | error fault => exact .refl _
  | ok cs =>
    have written := (SqlValue.text (String.ofList cs)).asOctets_coercesLike
    rw [SqlValue.asOctets, String.toList_ofList, ← Utf8.decode_eq_ok_iff.mp read] at written
    exact ⟨written.number.symm, written.text.symm, written.json.symm⟩

namespace Row

variable {columns others : List (String × SqlValue)}

/-- Columns with the same names whose values coerce alike, one by one. -/
abbrev Alike (columns others : List (String × SqlValue)) : Prop :=
  List.Forall₂ (fun c d => c.1 = d.1 ∧ c.2.CoercesLike d.2) columns others

theorem Alike.lookup (alike : Alike columns others) (name : String) :
    ((columns.lookup name).getD .null).CoercesLike ((others.lookup name).getD .null) := by
  induction alike with
  | nil => exact .refl _
  | @cons c d rest later same _ ih =>
    obtain ⟨first, v⟩ := c
    obtain ⟨second, w⟩ := d
    obtain ⟨rfl, values⟩ := same
    rw [List.lookup_cons, List.lookup_cons]
    cases name == first with
    | true => exact values
    | false => exact ih

theorem Alike.toCanonical_eq (alike : Alike columns others) :
    (Row.mk columns).toCanonical = (Row.mk others).toCanonical := by
  simp only [toCanonical, get?, (alike.lookup _).text, (alike.lookup _).number]

theorem Alike.toJson_eq (alike : Alike columns others) :
    (Row.mk columns).toJson = (Row.mk others).toJson := by
  have entries : columns.map (fun c => (c.1, c.2.toJson)) =
      others.map (fun c => (c.1, c.2.toJson)) := by
    induction alike with
    | nil => rfl
    | cons same _ ih => rw [List.map_cons, List.map_cons, same.1, same.2.json, ih]
  rw [toJson, toJson, entries]

/-- The row from a driver that delivers text as octets in some columns, chosen by position. -/
def withOctets (chosen : Nat → Bool) (r : Row) : Row :=
  ⟨r.columns.mapIdx fun i c => if chosen i then (c.1, c.2.asOctets) else c⟩

theorem withOctets_alike (chosen : Nat → Bool) (r : Row) :
    Alike (r.withOctets chosen).columns r.columns := by
  unfold withOctets
  dsimp only
  generalize r.columns = columns
  induction columns generalizing chosen with
  | nil => exact .nil
  | cons c rest ih =>
    rw [List.mapIdx_cons]
    refine .cons ?_ (ih fun i => chosen (i + 1))
    split
    · exact ⟨rfl, c.2.asOctets_coercesLike⟩
    · exact ⟨rfl, .refl c.2⟩

end Row

/-- It makes no difference whether text comes as such or as octets, in any columns of a row; and any
octets at all coerce like the one text that the rule for faulty octets gives them. -/
theorem delivery_immaterial (row : Row) (chosen : Nat → Bool) (b : List UInt8) :
    (row.withOctets chosen).toCanonical = row.toCanonical ∧
      (row.withOctets chosen).toJson = row.toJson ∧
      (MySql.textOrBytes b).CoercesLike (.bytes b) ∧
      ∃ t, (∀ other, Utf8.Lossy b other ↔ other = t) ∧
        (SqlValue.bytes b).asText = String.ofList t ∧
        (SqlValue.bytes b).toJson = .str (String.ofList t) ∧
        (SqlValue.bytes b).asBinary64 = (SqlValue.text (String.ofList t)).asBinary64 := by
  have alike := row.withOctets_alike chosen
  refine ⟨alike.toCanonical_eq, alike.toJson_eq, MySql.textOrBytes_coercesLike b,
    Utf8.decodeLossy b, fun other => Utf8.lossy_iff, ?_⟩
  have coerced := SqlValue.coercesLike_of_lossy (Utf8.lossy_decodeLossy b)
  exact ⟨coerced.text, coerced.json, coerced.number⟩

/-- Two columns of one name, of which the record takes the first and the preview the last. -/
example : ((Row.mk [("id", .text "7é"), ("id", .text "8")]).withOctets (· == 0)).columns =
    [("id", .bytes [0x37, 0xC3, 0xA9]), ("id", .text "8")] := by
  decide +kernel

end Geoflow
