import Geoflow.Proofs.Extract.Ending
import Geoflow.Extract.Extractor
import Geoflow.Proofs.Outcome

set_option autoImplicit false

namespace Geoflow

variable {e : ExtractError} {items : List StreamItem} {dialect : Dialect} {source : DataSource}

theorem firstError?_mem (fault : firstError? items = some e) : .error e ∈ items := by
  induction items with
  | nil => cases fault
  | cons item rest ih =>
    cases item with
    | ok row => exact List.mem_cons_of_mem _ (ih fault)
    | error first =>
      cases fault
      exact List.mem_cons_self

theorem materialize_error_mem {cap : Nat} (failed : (materialize cap items).rows = .error e) :
    .error e ∈ items := by
  induction items generalizing cap with
  | nil =>
    cases cap <;> cases failed
  | cons item rest ih =>
    cases cap with
    | zero => cases failed
    | succ cap =>
      cases item with
      | error first =>
        cases failed
        exact List.mem_cons_self
      | ok row =>
        rw [materialize] at failed
        cases further : (materialize cap rest).rows with
        | error later =>
          simp only [further] at failed
          cases failed
          exact List.mem_cons_of_mem _ (ih further)
        | ok rows =>
          simp only [further] at failed
          cases failed

/-- No more rows are read than were asked for. -/
theorem materialize_pulled_le (cap : Nat) (items : List StreamItem) :
    (materialize cap items).pulled ≤ cap := by
  induction items generalizing cap with
  | nil => cases cap <;> exact Nat.zero_le _
  | cons item rest ih =>
    cases cap with
    | zero => exact Nat.zero_le _
    | succ cap =>
      cases item with
      | error first => exact Nat.succ_le_succ (Nat.zero_le _)
      | ok row => exact Nat.succ_le_succ (ih cap)

theorem streamBatches_error {σ : Type} {c : Consumer σ} {size : Nat} {state : σ}
    {run : StreamRun σ} (streamed : streamBatches c size state items = .ok run)
    (failed : run.outcome = .error e) :
    e = .cancelled ∨ (∃ failure, e = .consumer failure) ∨ .error e ∈ items := by
  obtain ⟨-, followed⟩ := (streamBatches_followed c size state items).holds_of_ok streamed
  obtain ⟨batches, -, ending⟩ := followed.ended
  rw [failed] at ending
  generalize run.progress.pulled = pulled at ending
  cases ending with
  | beforehand => exact Or.inl rfl
  | stopped _ stop =>
    unfold Consumer.stop? at stop
    split at stop
    · cases stop
      exact Or.inr (Or.inl ⟨_, rfl⟩)
    · split at stop
      · cases stop
        exact Or.inl rfl
      · cases stop
  | faulted _ fault => exact Or.inr (Or.inr (firstError?_mem fault))

theorem execution_of_mem_items {server : DatabaseServer}
    (mem : .error e ∈ server.items dialect) : ∃ text, e = .execution text := by
  have ofServer : ∀ fault : ServerError, Except.error e = errorItem fault →
      ∃ text, e = .execution text := by
    intro fault same
    cases same
    exact ⟨_, rfl⟩
  unfold DatabaseServer.items at mem
  split at mem
  · exact ofServer _ (List.mem_singleton.mp mem)
  · rcases List.mem_append.mp mem with row | late
    · obtain ⟨cells, -, read⟩ := List.mem_map.mp row
      unfold rowItem at read
      split at read
      · cases read
      · cases read
        exact ⟨_, rfl⟩
    · rw [Option.mem_toList, Option.map_eq_some_iff] at late
      obtain ⟨fault, -, same⟩ := late
      exact ofServer fault same.symm

namespace Resolver

variable {r : Resolver} {network : Network} {dsn : String}

theorem connection_of_ofProvider {provider : String}
    (failed : Dialect.ofProvider provider = .error e) : ∃ fault, e = .connection fault := by
  unfold Dialect.ofProvider at failed
  split at failed
  · cases failed
  · cases failed
    exact ⟨_, rfl⟩

theorem connection_of_connectParams (failed : r.connectParams source = .error e) :
    ∃ fault, e = .connection fault := by
  rw [connectParams, bind_eq_error_iff] at failed
  rcases failed with unsupported | ⟨dialect, -, failed⟩
  · exact connection_of_ofProvider unsupported
  · split at failed
    · cases failed
      exact ⟨_, rfl⟩
    · cases failed

theorem connection_of_build {params : ConnectParams}
    (failed : Dsn.build dialect params = .error e) : ∃ fault, e = .connection fault := by
  unfold Dsn.build at failed
  split at failed
  · cases failed
    exact ⟨_, rfl⟩
  · split at failed
    · cases failed
      exact ⟨_, rfl⟩
    · cases failed

theorem connection_of_address (failed : r.address source = .error e) :
    ∃ fault, e = .connection fault := by
  rw [address, bind_eq_error_iff] at failed
  rcases failed with unopened | ⟨⟨dialect, params⟩, -, failed⟩
  · exact connection_of_connectParams unopened
  · rw [bind_eq_error_iff] at failed
    rcases failed with unbuilt | ⟨dsn, -, done⟩
    · exact connection_of_build unbuilt
    · cases done

theorem connection_of_connect (failed : (connect network dialect dsn).outcome = .error e) :
    ∃ fault, e = .connection fault := by
  unfold connect at failed
  dsimp only at failed
  split at failed
  · cases failed
    exact ⟨_, rfl⟩
  · split at failed
    · cases failed
      exact ⟨_, rfl⟩
    · dsimp only at failed
      split at failed
      · cases failed
        exact ⟨_, rfl⟩
      · cases failed
        exact ⟨_, rfl⟩
      · cases failed

theorem connection_of_resolve (failed : (r.resolve network source).outcome = .error e) :
    ∃ fault, e = .connection fault := by
  unfold resolve at failed
  split at failed
  · rename_i fault unresolved
    cases failed
    exact connection_of_address unresolved
  · rename_i dialect dsn _
    dsimp only at failed
    cases reached : (connect network dialect dsn).outcome with
    | ok server =>
      rw [reached] at failed
      cases failed
    | error fault =>
      rw [reached] at failed
      cases failed
      exact connection_of_connect reached

/-- Connecting sends no statement. -/
theorem resolve_statements : (r.resolve network source).contact.statements = [] := by
  unfold resolve
  split
  · rfl
  · unfold connect
    dsimp only
    split
    · rfl
    · split <;> rfl

end Resolver

end Geoflow
