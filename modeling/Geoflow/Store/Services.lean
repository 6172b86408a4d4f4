import Geoflow.Extract.Extractor
import Geoflow.Store.Catalog
import Geoflow.Store.Results
import Geoflow.Sync.Service

set_option autoImplicit false

namespace Geoflow.Store

def sourceLookup (s : Store) : SourceLookup := fun id ownerId =>
  (s.getSource id ownerId).mapError StoreError.message

def syncBackend (s : Store) : SyncBackend where
  find id := .ok (s.getSync id)
  ingest ownerId payload := (s.ingest ownerId payload).2.mapError StoreError.message
  recordTime id time := (s.updateLastSync id time).2.mapError StoreError.message

/-- The store after a step of a sync that it serves. -/
def afterStep (s : Store) : SyncStep → Store
  | .sent _ => s
  | .handedIn handover => (s.ingest handover.ownerId handover.payload).1
  | .noted id time _ => (s.updateLastSync id time).1

def afterSync (s : Store) (run : SyncRun) : Store := run.steps.foldl afterStep s

end Geoflow.Store
