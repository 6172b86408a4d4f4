import Geoflow.Extract.Extractor
import Geoflow.Proofs.Outcome

set_option autoImplicit false

namespace Geoflow.Extractor

variable {x y : Extractor} {p : Pipeline} {limit : Option UInt64} {e : ExtractError}
  {config : PipelineConfig} {source : DataSource} {dialect : Dialect} {sql address : String}

def reach (x : Extractor) (source : DataSource) : Attempt (Dialect × DatabaseServer) :=
  x.resolver.resolve x.network source

/-- Nothing of a pipeline is extracted, for one reason, and nothing outside is touched. -/
structure Refuses (x : Extractor) (p : Pipeline) (e : ExtractError) : Prop where
  preview : x.preview p = .refused e
  run : ∀ {σ : Type} (c : Consumer σ) (size : Nat) (state : σ),
    x.run c size state p = ⟨{}, .ok ⟨{ state }, .error e⟩⟩

/-- Two extractors that make the same of a pipeline. -/
structure AgreeOn (x y : Extractor) (p : Pipeline) : Prop where
  select : ∀ limit, x.select p limit = y.select p limit
  preview : x.preview p = y.preview p
  run : ∀ {σ : Type} (c : Consumer σ) (size : Nat) (state : σ),
    x.run c size state p = y.run c size state p

theorem refuses_of_select (refused : ∀ limit, x.select p limit = .error e) : x.Refuses p e where
  preview := by rw [Extractor.preview, openCursor, refused]; rfl
  run c size state := by rw [Extractor.run, openCursor, refused]; rfl

theorem agreeOn_of_lookup {here there : SourceLookup}
    (same : here p.dataSourceId p.ownerId = there p.dataSourceId p.ownerId) :
    AgreeOn { x with lookup := here } { x with lookup := there } p := by
  have select : ∀ limit, ({ x with lookup := here } : Extractor).select p limit =
      ({ x with lookup := there } : Extractor).select p limit := by
    intro limit
    simp only [Extractor.select, same]
  have cursor : ∀ limit, ({ x with lookup := here } : Extractor).openCursor p limit =
      ({ x with lookup := there } : Extractor).openCursor p limit := by
    intro limit
    simp only [openCursor, select]
  refine ⟨select, ?_, fun c size state => ?_⟩
  · simp only [Extractor.preview, shownRows, cursor]
  · simp only [Extractor.run, cursor]

theorem select_of_unreadable (unreadable : Sql.readConfig p.config = .error e) :
    x.select p limit = .error e := by
  rw [Extractor.select, unreadable]
  rfl

theorem select_of_missing (readable : Sql.readConfig p.config = .ok config)
    (missing : x.lookup p.dataSourceId p.ownerId = .ok none) :
    x.select p limit = .error (.connection .sourceNotFound) := by
  rw [Extractor.select, readable]
  simp only [missing]
  rfl

/-- Without a limit of its own a selection compiles the document as it stands. -/
theorem select_none (found : x.lookup p.dataSourceId p.ownerId = .ok (some source))
    (supported : Dialect.ofProvider source.provider = .ok dialect) :
    x.select p none = (Sql.compileDocument p.config dialect).map fun sql => (source, sql) := by
  rw [Extractor.select, Sql.compileDocument]
  cases Sql.readConfig p.config with
  | error e => rfl
  | ok config =>
    simp only [found, supported]
    rfl

/-- With a limit of its own it compiles the document under that limit. -/
theorem select_some (found : x.lookup p.dataSourceId p.ownerId = .ok (some source))
    (supported : Dialect.ofProvider source.provider = .ok dialect) (n : UInt64) :
    x.select p (some n) =
      (do Sql.compile { ← Sql.readConfig p.config with limit := some n } dialect).map
        fun sql => (source, sql) := by
  rw [Extractor.select]
  cases Sql.readConfig p.config with
  | error e => rfl
  | ok config =>
    simp only [found, supported]
    rfl

/-- A selected source is the one that was found. -/
theorem lookup_of_select (selected : x.select p limit = .ok (source, sql)) :
    x.lookup p.dataSourceId p.ownerId = .ok (some source) := by
  rw [Extractor.select, bind_eq_ok_iff] at selected
  obtain ⟨config, -, selected⟩ := selected
  dsimp only at selected
  split at selected
  · cases selected
  · cases selected
  · rename_i found
    simp only [bind_eq_ok_iff] at selected
    obtain ⟨dialect, -, text, -, same⟩ := selected
    cases same
    exact found

/-- With a statement selected, the rest is up to its source. -/
theorem openCursor_of_select (selected : x.select p limit = .ok (source, sql)) :
    x.openCursor p limit = ⟨(x.reach source).contact,
      (x.reach source).outcome.map fun (dialect, server) => ⟨sql, server.items dialect⟩⟩ := by
  rw [openCursor, selected]
  rfl

theorem dialed_of_connect {network : Network} {dsn : String}
    (dialed : (Resolver.connect network dialect dsn).contact.dialed = some address) :
    address = dsn := by
  unfold Resolver.connect at dialed
  dsimp only at dialed
  split at dialed
  · cases dialed
  · split at dialed
    · cases dialed
      rfl
    · cases dialed
      rfl

theorem dialed_of_resolve {r : Resolver} {network : Network}
    (dialed : (r.resolve network source).contact.dialed = some address) :
    ∃ dialect, r.address source = .ok (dialect, address) := by
  unfold Resolver.resolve at dialed
  split at dialed
  · cases dialed
  · rename_i dialect dsn resolved
    dsimp only at dialed
    exact ⟨dialect, dialed_of_connect dialed ▸ resolved⟩

/-- Only the address of a selected source is dialed. -/
theorem dialed_of_openCursor (dialed : (x.openCursor p limit).contact.dialed = some address) :
    ∃ source sql dialect, x.select p limit = .ok (source, sql) ∧
      x.resolver.address source = .ok (dialect, address) := by
  unfold openCursor at dialed
  split at dialed
  · cases dialed
  · rename_i source sql selected
    obtain ⟨dialect, resolved⟩ := dialed_of_resolve dialed
    exact ⟨source, sql, dialect, selected, resolved⟩

theorem preview_dialed : (x.preview p).contact.dialed =
    (x.openCursor p (some x.shownRows)).contact.dialed := by
  unfold Extractor.preview
  dsimp only
  split <;> rfl

theorem run_dialed {σ : Type} {c : Consumer σ} {size : Nat} {state : σ} :
    (x.run c size state p).contact.dialed = (x.openCursor p none).contact.dialed := by
  unfold Extractor.run
  dsimp only
  split
  · rfl
  · split
    · rfl
    · dsimp only
      split <;> rfl

end Geoflow.Extractor
