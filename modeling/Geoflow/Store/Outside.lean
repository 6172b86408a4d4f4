import Geoflow.Store.Catalog

set_option autoImplicit false

namespace Geoflow.Store

inductive Obstacle where
  /-- A file stands where its folder should be. -/
  | fileAbove
  /-- A folder stands in its place. -/
  | folder
  deriving DecidableEq, Repr

def Obstacle.error : Obstacle → StoreError
  | .fileAbove => .io
  | .folder => .database .cannotOpen

def isCastBlank (c : Char) : Bool := c == ' ' || ('\t' ≤ c && c ≤ '\r')

/-- A text cast to an integer: the number it starts with, or zero, held within 64 bits. -/
def castInteger (text : String) : Int :=
  let (negative, rest) := match text.toList.dropWhile isCastBlank with
    | '-' :: rest => (true, rest)
    | '+' :: rest => (false, rest)
    | rest => (false, rest)
  let magnitude : Int := Numeral.value (rest.takeWhile Numeral.isDigit)
  max Int64.minValue.toInt
    (min Int64.maxValue.toInt (if negative then -magnitude else magnitude))

def overwriteConfig (s : Store) (id : Int64) (text : String) : StoreAnswer Nat :=
  let (pipelines, answer) := s.pipelines.update id fun row => { row with config := text }
  ({ s with pipelines }, answer.mapError .database)

def overwriteLastSync (s : Store) (id : Int64) (text : String) : StoreAnswer Nat :=
  let (syncs, answer) := s.syncs.update id fun row => { row with lastSyncAt := some text }
  ({ s with syncs }, answer.mapError .database)

def overwriteSessionTime (s : Store) (id : Int64) (text : String) : StoreAnswer Nat :=
  let (sessions, answer) := s.sessions.update id fun row => { row with createdAt := text }
  ({ s with sessions }, answer.mapError .database)

def overwritePort (s : Store) (id : Int64) (text : String) : StoreAnswer Nat :=
  let (sources, answer) := s.sources.update id fun row => { row with port := castInteger text }
  ({ s with sources }, answer.mapError .database)

/-- Deletes a source and the pipelines that need it. -/
def deleteSource (s : Store) (id : Int64) : StoreAnswer Nat :=
  match s.sources.delete fun key _ => Table.isId key id with
  | (_, .error fault) => (s, .error (.database fault))
  | (sources, .ok hits) =>
    if hits = 0 then (s, .ok 0)
    else match s.pipelines.delete fun _ row => row.dataSourceId == id with
      | (_, .error fault) => (s, .error (.database fault))
      | (pipelines, .ok _) => ({ s with sources, pipelines }, .ok hits)

def block (s : Store) (table : String) : Store :=
  match table with
  | "data_sources" => { s with sources := { s.sources with blocked := true } }
  | "pipelines" => { s with pipelines := { s.pipelines with blocked := true } }
  | "erp_integrations" => { s with syncs := { s.syncs with blocked := true } }
  | "comparison_sessions" => { s with sessions := { s.sessions with blocked := true } }
  | "sync_points" => { s with points := { s.points with blocked := true } }
  | _ => s

end Geoflow.Store
