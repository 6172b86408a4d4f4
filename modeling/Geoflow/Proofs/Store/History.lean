import Geoflow.Store.Catalog
import Geoflow.Store.Results

set_option autoImplicit false

namespace Geoflow

/-- A change that a store makes by itself. -/
inductive StoreChange where
  | insertSource (source : DataSource)
  | insertPipeline (ownerId dataSourceId : Int64) (name : String) (config : Json)
  | updateConfig (id : Int64) (config : Json)
  | deletePipeline (id : Int64)
  | insertSync (sync : ExternalSync)
  | updateLastSync (id : Int64) (time : Instant)
  | insertSession (session : RunSession)
  | insertPoints (ownerId : Int64) (payload : CoordinatePayload)

/-- The store after a change, also after one that failed. -/
def StoreChange.apply (s : Store) : StoreChange → Store
  | .insertSource source => (s.insertSource source).1
  | .insertPipeline ownerId dataSourceId name config =>
    (s.insertPipeline ownerId dataSourceId name config).1
  | .updateConfig id config => (s.updateConfig id config).1
  | .deletePipeline id => (s.deletePipeline id).1
  | .insertSync sync => (s.insertSync sync).1
  | .updateLastSync id time => (s.updateLastSync id time).1
  | .insertSession session => (s.insertSession session).1
  | .insertPoints ownerId payload => (s.insertPoints ownerId payload).1

namespace Store

variable {s : Store}

def after (changes : List StoreChange) : Store := changes.foldl StoreChange.apply {}

/-- What every change keeps holds of every store with a history. -/
theorem after_induction {property : Store → Prop} (empty : property {})
    (step : ∀ s change, property s → property (StoreChange.apply s change))
    (changes : List StoreChange) : property (after changes) := by
  have whole : ∀ s, property s → property (changes.foldl StoreChange.apply s) := by
    induction changes with
    | nil => exact fun _ holds => holds
    | cons change rest ih => exact fun s holds => ih _ (step s change holds)
  exact whole {} empty

/-- A source comes in through its own table, which takes it or stays as it was. -/
theorem insertSource_sources (s : Store) (source : DataSource) :
    (s.insertSource source).1.sources = s.sources ∨
      (s.insertSource source).1.sources = (s.sources.insert (.ofSource source)).1 := by
  rw [insertSource]
  split
  · exact Or.inl rfl
  · rename_i inserted
    exact Or.inr (by rw [inserted])

/-- No other change touches the table of sources. -/
theorem apply_sources (s : Store) (change : StoreChange) :
    (change.apply s).sources = s.sources ∨
      ∃ source, (change.apply s).sources = (s.sources.insert (.ofSource source)).1 := by
  cases change with
  | insertSource source =>
    exact (insertSource_sources s source).imp_right fun added => ⟨source, added⟩
  | insertPipeline ownerId dataSourceId name config =>
    refine Or.inl ?_
    rw [StoreChange.apply, insertPipeline]
    split
    · rfl
    · split <;> rfl
  | updateConfig | deletePipeline | insertSync | updateLastSync | insertSession | insertPoints =>
    refine Or.inl ?_
    simp only [StoreChange.apply, updateConfig, deletePipeline, insertSync, updateLastSync,
      insertSession, insertPoints]
    split <;> rfl

end Store

end Geoflow
