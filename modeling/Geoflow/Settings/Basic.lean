import Geoflow.Json.Reader
import Geoflow.Text.Outline

set_option autoImplicit false

namespace Geoflow

structure SecuritySettings where
  aesKey : String
  deriving DecidableEq, Repr

structure DatabaseSettings where
  path : String
  deriving DecidableEq, Repr

structure ExtractSettings where
  batchSize : UInt64 := 1000
  previewRows : UInt64 := 10
  maxConnections : UInt32 := 5
  connectTimeoutSecs : UInt64 := 10
  deriving DecidableEq, Repr

structure SyncSettings where
  timeoutSecs : UInt64 := 30
  deriving DecidableEq, Repr

structure ValidationSettings where
  url : String := "http://localhost:8080/internal/validate"
  requestsPerSec : UInt32 := 1
  timeoutSecs : UInt64 := 30
  deriving DecidableEq, Repr

structure Settings where
  security : SecuritySettings
  database : DatabaseSettings
  extract : ExtractSettings
  sync : SyncSettings
  validation : ValidationSettings
  deriving DecidableEq, Repr

/-- The directory of a user's files, or the working directory where no home is known. -/
def homeOr (home : Option String) : String := home.getD "."

def defaultDatabasePath (home : Option String) : String := homeOr home ++ "/.geoetl/geoetl.db"

def defaultSettingsPath (home : Option String) : String := homeOr home ++ "/.geoetl/geoetl.toml"

section Readers

variable {δ : Type} [Document δ]

def SecuritySettings.read : δ → Except ReadError SecuritySettings :=
  readShape "struct SecurityConfig" 1 fun fs =>
    SecuritySettings.mk <$> fs.required 0 "aes_key" readString

def DatabaseSettings.read (home : Option String) : δ → Except ReadError DatabaseSettings :=
  readShape "struct DatabaseConfig" 1 fun fs =>
    DatabaseSettings.mk <$> fs.withDefault 0 "path" readString (defaultDatabasePath home)

def ExtractSettings.read : δ → Except ReadError ExtractSettings :=
  readShape "struct ExtractConfig" 4 fun fs =>
    ExtractSettings.mk <$> fs.withDefault 0 "batch_size" readSize ({} : ExtractSettings).batchSize
      <*> fs.withDefault 1 "preview_rows" readSize ({} : ExtractSettings).previewRows
      <*> fs.withDefault 2 "max_connections" readUInt32 ({} : ExtractSettings).maxConnections
      <*> fs.withDefault 3 "connect_timeout_secs" readUInt64
        ({} : ExtractSettings).connectTimeoutSecs

def SyncSettings.read : δ → Except ReadError SyncSettings :=
  readShape "struct SyncConfig" 1 fun fs =>
    SyncSettings.mk <$> fs.withDefault 0 "timeout_secs" readUInt64 ({} : SyncSettings).timeoutSecs

def ValidationSettings.read : δ → Except ReadError ValidationSettings :=
  readShape "struct ValidationConfig" 3 fun fs =>
    ValidationSettings.mk
      <$> fs.withDefault 0 "url" readString ({} : ValidationSettings).url
      <*> fs.withDefault 1 "requests_per_sec" readUInt32 ({} : ValidationSettings).requestsPerSec
      <*> fs.withDefault 2 "timeout_secs" readUInt64 ({} : ValidationSettings).timeoutSecs

/-- Reads settings; a section or field that is absent has its default. -/
def Settings.read (home : Option String) : δ → Except ReadError Settings :=
  readShape "struct GeoEtlConfig" 5 fun fs =>
    Settings.mk <$> fs.required 0 "security" SecuritySettings.read
      <*> fs.withDefault 1 "database" (DatabaseSettings.read home) ⟨defaultDatabasePath home⟩
      <*> fs.withDefault 2 "extract" ExtractSettings.read {}
      <*> fs.withDefault 3 "sync" SyncSettings.read {}
      <*> fs.withDefault 4 "validation" ValidationSettings.read {}

end Readers

namespace Settings

def toJson (s : Settings) : Json :=
  .ofEntries [
    ("security", .ofEntries [("aes_key", .str s.security.aesKey)]),
    ("database", .ofEntries [("path", .str s.database.path)]),
    ("extract", .ofEntries [("batch_size", .int s.extract.batchSize.toNat),
      ("preview_rows", .int s.extract.previewRows.toNat),
      ("max_connections", .int s.extract.maxConnections.toNat),
      ("connect_timeout_secs", .int s.extract.connectTimeoutSecs.toNat)]),
    ("sync", .ofEntries [("timeout_secs", .int s.sync.timeoutSecs.toNat)]),
    ("validation", .ofEntries [("url", .str s.validation.url),
      ("requests_per_sec", .int s.validation.requestsPerSec.toNat),
      ("timeout_secs", .int s.validation.timeoutSecs.toNat)])]

def keyLength : Nat := 32

inductive Fault where
  | keyLength (found : Nat)
  | zero (setting : String)
  deriving DecidableEq, Repr

def Fault.message : Fault → String
  | .keyLength found =>
    "security.aes_key must be exactly " ++ Numeral.ofNat Settings.keyLength ++ " bytes (got "
      ++ Numeral.ofNat found ++ ")"
  | .zero setting => setting ++ " must be greater than zero"

/-- The first fault of settings, if there is one. -/
def fault? (s : Settings) : Option Fault :=
  if s.security.aesKey.utf8ByteSize ≠ keyLength then
    some (.keyLength s.security.aesKey.utf8ByteSize)
  else if s.extract.batchSize = 0 then some (.zero "extract.batch_size")
  else if s.validation.requestsPerSec = 0 then some (.zero "validation.requests_per_sec")
  else if s.validation.timeoutSecs = 0 then some (.zero "validation.timeout_secs")
  else none

def check (s : Settings) : Except Fault Settings :=
  match s.fault? with
  | some fault => .error fault
  | none => .ok s

end Settings

def SecuritySettings.outline (_ : SecuritySettings) : String :=
  Text.outline "SecurityConfig" [("aes_key", Text.quoted "<redacted>")]

end Geoflow
