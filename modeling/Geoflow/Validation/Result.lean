import Geoflow.Json.Reader

set_option autoImplicit false

namespace Geoflow

/-- The record that every row becomes. -/
structure CanonicalRecord where
  id : String
  fullAddress : String
  latitude : Binary64
  longitude : Binary64
  deriving DecidableEq, Repr

namespace CanonicalRecord

def read {δ : Type} [Document δ] : δ → Except ReadError CanonicalRecord :=
  readShape "struct CanonicalRecord" 4 fun fs =>
    CanonicalRecord.mk <$> fs.required 0 "id" readString
      <*> fs.required 1 "full_address" readString
      <*> fs.required 2 "latitude" readBinary64
      <*> fs.required 3 "longitude" readBinary64

def toJson (r : CanonicalRecord) : Json :=
  .ofEntries [("id", .str r.id), ("full_address", .str r.fullAddress),
    ("latitude", .ofBinary64 r.latitude), ("longitude", .ofBinary64 r.longitude)]

end CanonicalRecord

structure ValidationResult where
  id : String := ""
  systemAddress : String := ""
  geoLat : Binary64 := .zero false
  geoLng : Binary64 := .zero false
  fieldLat : Binary64 := .zero false
  fieldLng : Binary64 := .zero false
  distanceKm : Binary64 := .zero false
  accuracyLevel : String := ""
  provider : String := ""
  error : Option String := none
  deriving DecidableEq, Repr

namespace ValidationResult

def read {δ : Type} [Document δ] : δ → Except ReadError ValidationResult :=
  readShape "struct ValidationResult" 10 fun fs =>
    ValidationResult.mk <$> fs.required 0 "id" readString
      <*> fs.required 1 "system_address" readString
      <*> fs.withDefault 2 "geo_lat" readBinary64 (.zero false)
      <*> fs.withDefault 3 "geo_lng" readBinary64 (.zero false)
      <*> fs.required 4 "field_lat" readBinary64
      <*> fs.required 5 "field_lng" readBinary64
      <*> fs.withDefault 6 "distance_km" readBinary64 (.zero false)
      <*> fs.withDefault 7 "accuracy_level" readString ""
      <*> fs.withDefault 8 "provider" readString ""
      <*> fs.withDefault 9 "error" (readOption readString) none

/-- The document of a result; there is no entry for an error that did not happen. -/
def toJson (r : ValidationResult) : Json :=
  .ofEntries ([("id", .str r.id), ("system_address", .str r.systemAddress),
    ("geo_lat", .ofBinary64 r.geoLat), ("geo_lng", .ofBinary64 r.geoLng),
    ("field_lat", .ofBinary64 r.fieldLat), ("field_lng", .ofBinary64 r.fieldLng),
    ("distance_km", .ofBinary64 r.distanceKm), ("accuracy_level", .str r.accuracyLevel),
    ("provider", .str r.provider)] ++ (r.error.map fun e => ("error", Json.str e)).toList)

/-- The result of a record that could not be validated. -/
def failed (record : CanonicalRecord) (error : String) : ValidationResult :=
  { id := record.id, systemAddress := record.fullAddress, fieldLat := record.latitude,
    fieldLng := record.longitude, error := some error }

end ValidationResult

end Geoflow
