import Geoflow.Schedule.Scheduler
import Geoflow.Store.Catalog

set_option autoImplicit false

namespace Geoflow

structure ServiceCounts where
  pipelines : Nat
  scheduled : Nat
  syncs : Nat
  scheduledSyncs : Nat
  deriving DecidableEq, Repr

structure Service where
  scheduler : Scheduler
  counts : ServiceCounts

namespace Service

/-- Starts the dispatcher and schedules what a store holds; what cannot be scheduled is passed over.
-/
def start (store : Store) : Except StoreError Service := do
  let scheduler := (({} : Scheduler).turn .clockwork .start).1
  let pipelines ← store.listPipelines
  let (scheduler, scheduled) := scheduler.reloadPipelines .clockwork pipelines
  let syncs := store.listSyncs
  let (scheduler, scheduledSyncs) := scheduler.reloadSyncs .clockwork syncs
  return ⟨scheduler, ⟨pipelines.length, scheduled, syncs.length, scheduledSyncs⟩⟩

end Service

def ServiceCounts.line (c : ServiceCounts) : String :=
  "running pipelines=" ++ Numeral.ofNat c.pipelines ++ " scheduled=" ++ Numeral.ofNat c.scheduled
    ++ " syncs=" ++ Numeral.ofNat c.syncs ++ " scheduled_syncs=" ++ Numeral.ofNat c.scheduledSyncs

end Geoflow
