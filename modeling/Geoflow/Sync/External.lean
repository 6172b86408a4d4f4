import Geoflow.Text.Outline
import Geoflow.Time.Instant

set_option autoImplicit false

namespace Geoflow

structure ExternalSync where
  id : Int64
  ownerId : Int64
  name : String
  url : String
  method : String
  authHeaderKey : String := ""
  /-- The sealed value of the authorization header, or nothing. -/
  authHeaderValue : String := ""
  cronSchedule : String := ""
  lastSyncAt : Option Instant := none
  deriving DecidableEq, Repr

namespace ExternalSync

def read {δ : Type} [Document δ] : δ → Except ReadError ExternalSync :=
  readShape "struct ExternalSync" 9 fun fs =>
    ExternalSync.mk <$> fs.required 0 "id" readInt64
      <*> fs.required 1 "owner_id" readInt64
      <*> fs.required 2 "name" readString
      <*> fs.required 3 "url" readString
      <*> fs.required 4 "method" readString
      <*> fs.withDefault 5 "auth_header_key" readString ""
      <*> fs.withDefault 6 "auth_header_value" readString ""
      <*> fs.withDefault 7 "cron_schedule" readString ""
      <*> fs.withDefault 8 "last_sync_at" (readOption readInstant) none

def toJson (s : ExternalSync) : Json :=
  .ofEntries [("id", .int s.id.toInt), ("owner_id", .int s.ownerId.toInt), ("name", .str s.name),
    ("url", .str s.url), ("method", .str s.method), ("auth_header_key", .str s.authHeaderKey),
    ("auth_header_value", .str s.authHeaderValue), ("cron_schedule", .str s.cronSchedule),
    ("last_sync_at", .ofOption Instant.toJson s.lastSyncAt)]

/-- The cron text of a sync that is to be scheduled: one that is not blank. -/
def activeCron (s : ExternalSync) : Option String :=
  let cron := Text.trim s.cronSchedule
  if cron.isEmpty then none else some cron

def lastSyncText : Option Instant → String
  | none => "None"
  | some t => "Some(" ++ t.toText ++ ")"

/-- The outline of a sync, without the value of its authorization header. -/
def outline (s : ExternalSync) : String :=
  Text.partialOutline "ExternalSync"
    [("id", Text.integerText s.id.toInt), ("owner_id", Text.integerText s.ownerId.toInt),
      ("name", Text.quoted s.name), ("url", Text.quoted s.url), ("method", Text.quoted s.method),
      ("auth_header_key", Text.quoted s.authHeaderKey),
      ("cron_schedule", Text.quoted s.cronSchedule),
      ("last_sync_at", lastSyncText s.lastSyncAt)]

end ExternalSync

end Geoflow
