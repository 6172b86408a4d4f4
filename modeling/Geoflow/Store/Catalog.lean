import Geoflow.Store.Basic

set_option autoImplicit false

namespace Geoflow.Store

def insertSource (s : Store) (source : DataSource) : StoreAnswer DataSource :=
  match s.sources.insert (.ofSource source) with
  | (_, .error fault) => (s, .error (.database fault))
  | (sources, .ok key) => ({ s with sources }, .ok { source with id := Int64.ofNat key })

/-- A source is found only together with its owner. -/
def getSource (s : Store) (id ownerId : Int64) : Except StoreError (Option DataSource) :=
  match s.sources.find? id with
  | some (key, row) => if row.ownerId = ownerId then some <$> row.read key else .ok none
  | none => .ok none

/-- Stores a pipeline under a new number. It needs a stored source, but not one of its own owner. -/
def insertPipeline (s : Store) (ownerId dataSourceId : Int64) (name : String) (config : Json) :
    StoreAnswer Pipeline :=
  match s.pipelines.insert ⟨ownerId, dataSourceId, name, config.render⟩ with
  | (_, .error fault) => (s, .error (.database fault))
  | (pipelines, .ok key) =>
    if (s.sources.find? dataSourceId).isSome then
      ({ s with pipelines }, .ok ⟨Int64.ofNat key, ownerId, dataSourceId, name, config⟩)
    else (s, .error (.database .foreignKey))

def updateConfig (s : Store) (id : Int64) (config : Json) : StoreAnswer Bool :=
  match s.pipelines.update id fun row => { row with config := config.render } with
  | (_, .error fault) => (s, .error (.database fault))
  | (pipelines, .ok hits) => ({ s with pipelines }, .ok (0 < hits))

def getPipeline (s : Store) (id : Int64) : Except StoreError (Option Pipeline) :=
  match s.pipelines.find? id with
  | some (key, row) => some <$> row.read key
  | none => .ok none

def listPipelines (s : Store) : Except StoreError (List Pipeline) :=
  s.pipelines.rows.mapM fun (key, row) => row.read key

def deletePipeline (s : Store) (id : Int64) : StoreAnswer Bool :=
  match s.pipelines.delete fun key _ => Table.isId key id with
  | (_, .error fault) => (s, .error (.database fault))
  | (pipelines, .ok hits) => ({ s with pipelines }, .ok (0 < hits))

def insertSync (s : Store) (sync : ExternalSync) : StoreAnswer ExternalSync :=
  match s.syncs.insert (.ofSync sync) with
  | (_, .error fault) => (s, .error (.database fault))
  | (syncs, .ok key) =>
    ({ s with syncs }, .ok { sync with id := Int64.ofNat key, lastSyncAt := none })

def getSync (s : Store) (id : Int64) : Option ExternalSync :=
  (s.syncs.find? id).map fun (key, row) => row.read key

def listSyncs (s : Store) : List ExternalSync := s.syncs.rows.map fun (key, row) => row.read key

/-- Notes the time of the last run of a sync, if there is one of that number. -/
def updateLastSync (s : Store) (id : Int64) (time : Instant) : StoreAnswer Unit :=
  match s.syncs.update id fun row => { row with lastSyncAt := some time.toOffsetText } with
  | (_, .error fault) => (s, .error (.database fault))
  | (syncs, .ok _) => ({ s with syncs }, .ok ())

end Geoflow.Store
