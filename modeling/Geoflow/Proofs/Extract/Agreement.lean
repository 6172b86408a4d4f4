import Geoflow.Proofs.Extract.Failure
import Geoflow.Proofs.Extract.Selection
import Geoflow.Proofs.Sql.Rejection

set_option autoImplicit false

namespace Geoflow.Extractor

variable {x : Extractor} {p : Pipeline} {source : DataSource} {dialect : Dialect}
  {e : ExtractError} {sql shown : String}

/-- An accepted document is carried out with one statement for a run and one for a preview, if its
source is reached. -/
structure CarriesOut (x : Extractor) (p : Pipeline) (source : DataSource) (sql shown : String) :
    Prop where
  unreached : ∀ e, (x.reach source).outcome = .error e →
    x.preview p = ⟨(x.reach source).contact, .error e⟩ ∧
      ∀ {σ : Type} (c : Consumer σ) (size : Nat) (state : σ),
        x.run c size state p = ⟨(x.reach source).contact, .ok ⟨{ state }, .error e⟩⟩
  previewed : ∀ d server, (x.reach source).outcome = .ok (d, server) →
    (x.preview p).contact = { (x.reach source).contact with statements := [shown] } ∧
      (x.preview p).outcome =
        (materialize (max x.previewRows.toNat 1) (server.items d)).rows ∧
      (materialize (max x.previewRows.toNat 1) (server.items d)).pulled ≤ max x.previewRows.toNat 1
  streamed : ∀ d server, (x.reach source).outcome = .ok (d, server) →
    ∀ {σ : Type} (c : Consumer σ) (size : Nat) (state : σ), size < 2 ^ 57 →
      (x.run c size state p).contact = (if c.isCancelled state then (x.reach source).contact
        else { (x.reach source).contact with statements := [sql] }) ∧
      ∃ run, (x.run c size state p).stream = .ok run ∧
        streamBatches c size state (server.items d) = .ok run
  /-- Without a buffer for a batch the statement is not sent. -/
  oversized : ∀ d server, (x.reach source).outcome = .ok (d, server) →
    ∀ {σ : Type} (c : Consumer σ) (size : Nat) (state : σ), 2 ^ 57 ≤ size →
      x.run c size state p = ⟨(x.reach source).contact, .error .capacityOverflow⟩

/-- What the extractions of a pipeline make of its document, next to compiling it for a dialect. -/
structure FollowsDocument (x : Extractor) (p : Pipeline) (source : DataSource) (dialect : Dialect) :
    Prop where
  aboutDocument : ∀ e, Sql.compileDocument p.config dialect = .error e → e.IsAboutDocument
  /-- Whatever key is at hand and whatever servers there are. -/
  refused : ∀ e, Sql.compileDocument p.config dialect = .error e →
    ∀ resolver network, ({ x with resolver, network } : Extractor).Refuses p e
  previewRejects : ∀ e, e.IsAboutDocument →
    ((x.preview p).outcome = .error e ↔ Sql.compileDocument p.config dialect = .error e)
  runRejects : ∀ {σ : Type} (c : Consumer σ) (size : Nat) (state : σ) (e : ExtractError),
    e.IsAboutDocument →
      ((∃ run, (x.run c size state p).stream = .ok run ∧ run.outcome = .error e) ↔
        Sql.compileDocument p.config dialect = .error e)
  accepted : ∀ sql, Sql.compileDocument p.config dialect = .ok sql →
    ∃ config base, Sql.readConfig p.config = .ok config ∧
      Sql.compile { config with limit := none } dialect = .ok base ∧
      x.CarriesOut p source sql
        (base ++ "\nLIMIT " ++ Numeral.ofNat (max x.previewRows.toNat 1))

theorem shownRows_toNat (x : Extractor) : x.shownRows.toNat = max x.previewRows.toNat 1 := by
  rw [shownRows, UInt64.max_def]
  split
  · rename_i few
    rw [UInt64.le_iff_toNat_le] at few
    exact (Nat.max_eq_right few).symm
  · rename_i many
    rw [UInt64.le_iff_toNat_le] at many
    exact (Nat.max_eq_left (Nat.le_of_not_le many)).symm

theorem shownRows_pos (x : Extractor) : 0 < x.shownRows := by
  rw [UInt64.lt_iff_toNat_lt, shownRows_toNat]
  exact Nat.lt_of_lt_of_le Nat.one_pos (Nat.le_max_right _ 1)

theorem send_reach (x : Extractor) (source : DataSource) (text : String) :
    send (x.reach source).contact text =
      { (x.reach source).contact with statements := [text] } := by
  rw [send, reach, Resolver.resolve_statements, List.nil_append]

/-- With both statements selected, the rest is up to the source. -/
theorem carriesOut_of_select (forRun : x.select p none = .ok (source, sql))
    (forPreview : x.select p (some x.shownRows) = .ok (source, shown)) :
    x.CarriesOut p source sql shown where
  unreached e failed := by
    refine ⟨?_, fun c size state => ?_⟩
    · rw [Extractor.preview, openCursor_of_select forPreview, failed]
      rfl
    · rw [Extractor.run, openCursor_of_select forRun, failed]
      rfl
  previewed d server reached := by
    have outcome : x.preview p = ⟨send (x.reach source).contact shown,
        (materialize x.shownRows.toNat (server.items d)).rows⟩ := by
      rw [Extractor.preview, openCursor_of_select forPreview, reached]
      rfl
    rw [outcome, send_reach, shownRows_toNat]
    exact ⟨rfl, rfl, materialize_pulled_le _ _⟩
  streamed d server reached σ c size state small := by
    obtain ⟨run, streamed, -⟩ :=
      (streamBatches_followed c size state (server.items d)).holds_iff.mpr small
    have outcome : x.run c size state p = ⟨if c.isCancelled state then (x.reach source).contact
        else send (x.reach source).contact sql, .ok run⟩ := by
      rw [Extractor.run, openCursor_of_select forRun, reached]
      simp only [Except.map, streamed]
    rw [outcome, send_reach]
    exact ⟨rfl, _, rfl, streamed⟩
  oversized d server reached σ c size state large := by
    rw [Extractor.run, openCursor_of_select forRun, reached]
    simp only [Except.map, streamBatches_of_le c state (server.items d) large]

namespace CarriesOut

variable (carries : x.CarriesOut p source sql shown) (about : e.IsAboutDocument)
include carries about

theorem preview_ne : (x.preview p).outcome ≠ .error e := by
  intro failed
  cases reached : (x.reach source).outcome with
  | error fault =>
    rw [(carries.unreached fault reached).1] at failed
    cases failed
    obtain ⟨_, rfl⟩ := Resolver.connection_of_resolve reached
    exact about
  | ok connected =>
    obtain ⟨d, server⟩ := connected
    rw [(carries.previewed d server reached).2.1] at failed
    obtain ⟨_, rfl⟩ := execution_of_mem_items (materialize_error_mem failed)
    exact about

theorem run_ne {σ : Type} {c : Consumer σ} {size : Nat} {state : σ} {run : StreamRun σ}
    (streamed : (x.run c size state p).stream = .ok run) : run.outcome ≠ .error e := by
  intro failed
  cases reached : (x.reach source).outcome with
  | error fault =>
    rw [(carries.unreached fault reached).2] at streamed
    cases streamed
    cases failed
    obtain ⟨_, rfl⟩ := Resolver.connection_of_resolve reached
    exact about
  | ok connected =>
    obtain ⟨d, server⟩ := connected
    rcases Nat.lt_or_ge size (2 ^ 57) with small | large
    · obtain ⟨-, own, same, ofItems⟩ := carries.streamed d server reached c size state small
      rw [streamed] at same
      cases same
      rcases streamBatches_error ofItems failed with rfl | ⟨_, rfl⟩ | item
      · exact about
      · exact about
      · obtain ⟨_, rfl⟩ := execution_of_mem_items item
        exact about
    · rw [carries.oversized d server reached c size state large] at streamed
      cases streamed

end CarriesOut

section

variable (found : x.lookup p.dataSourceId p.ownerId = .ok (some source))
  (supported : Dialect.ofProvider source.provider = .ok dialect)
include found supported

theorem select_of_rejected (rejected : Sql.compileDocument p.config dialect = .error e)
    (limit : Option UInt64) : x.select p limit = .error e := by
  cases limit with
  | none =>
    rw [select_none found supported, rejected]
    rfl
  | some n =>
    rw [select_some found supported]
    rw [Sql.compileDocument, bind_eq_error_iff] at rejected
    rcases rejected with unreadable | ⟨config, readable, refused⟩
    · rw [unreadable]
      rfl
    · have limited := (Sql.compile_limit_eq_error_iff (some n)).mpr refused
      rw [readable]
      exact congrArg (Except.map fun sql => (source, sql)) limited

theorem accepted_of_compileDocument (compiled : Sql.compileDocument p.config dialect = .ok sql) :
    ∃ config base, Sql.readConfig p.config = .ok config ∧
      Sql.compile { config with limit := none } dialect = .ok base ∧
      x.CarriesOut p source sql
        (base ++ "\nLIMIT " ++ Numeral.ofNat (max x.previewRows.toNat 1)) := by
  have forRun : x.select p none = .ok (source, sql) := by
    rw [select_none found supported, compiled]
    rfl
  rw [Sql.compileDocument, bind_eq_ok_iff] at compiled
  obtain ⟨config, readable, accepted⟩ := compiled
  have accepts : ∃ base, Sql.compile { config with limit := none } dialect = .ok base := by
    cases result : Sql.compile { config with limit := none } dialect with
    | ok base => exact ⟨base, rfl⟩
    | error e =>
      rw [(Sql.compile_limit_eq_error_iff none).mp result] at accepted
      cases accepted
  obtain ⟨base, unlimited⟩ := accepts
  have limited := Sql.compile_limited config dialect x.shownRows_pos
  rw [unlimited, shownRows_toNat] at limited
  have forPreview : x.select p (some x.shownRows) =
      .ok (source, base ++ "\nLIMIT " ++ Numeral.ofNat (max x.previewRows.toNat 1)) := by
    rw [select_some found supported, readable]
    exact congrArg (Except.map fun sql => (source, sql)) limited
  exact ⟨config, base, readable, unlimited, carriesOut_of_select forRun forPreview⟩

end

/-- An extraction over a source that was found and is supported rejects what compiling the document
rejects, and else sends what compiling it gives. -/
theorem extraction_follows_document (x : Extractor) (p : Pipeline) (source : DataSource)
    (dialect : Dialect) (found : x.lookup p.dataSourceId p.ownerId = .ok (some source))
    (supported : Dialect.ofProvider source.provider = .ok dialect) :
    x.FollowsDocument p source dialect := by
  have rejects : ∀ e, Sql.compileDocument p.config dialect = .error e → x.Refuses p e :=
    fun e rejected => refuses_of_select (select_of_rejected found supported rejected)
  exact {
    aboutDocument := fun e => Sql.isAboutDocument_of_compileDocument
    refused := by
      intro e rejected resolver network
      have sameFound : ({ x with resolver, network } : Extractor).lookup p.dataSourceId p.ownerId =
        .ok (some source) := found
      exact refuses_of_select (select_of_rejected sameFound supported rejected)
    previewRejects := by
      intro e about
      constructor
      · intro failed
        cases compiled : Sql.compileDocument p.config dialect with
        | error first =>
          rw [(rejects first compiled).preview] at failed
          cases failed
          rfl
        | ok sql =>
          obtain ⟨_, _, -, -, carries⟩ := accepted_of_compileDocument found supported compiled
          exact absurd failed (carries.preview_ne about)
      · intro rejected
        rw [(rejects e rejected).preview]
        rfl
    runRejects := by
      intro σ c size state e about
      constructor
      · rintro ⟨run, streamed, failed⟩
        cases compiled : Sql.compileDocument p.config dialect with
        | error first =>
          rw [(rejects first compiled).run] at streamed
          cases streamed
          cases failed
          rfl
        | ok sql =>
          obtain ⟨_, _, -, -, carries⟩ := accepted_of_compileDocument found supported compiled
          exact absurd failed (carries.run_ne about streamed)
      · intro rejected
        rw [(rejects e rejected).run]
        exact ⟨_, rfl, rfl⟩
    accepted := fun _ => accepted_of_compileDocument found supported }

def storesPipeline (baseTable : String) : Pipeline :=
  ⟨1, 1, 1, "stores", .ofEntries [("base_table", .str baseTable),
    ("mappings", .arr [.ofEntries [("target_column", .str "id"), ("expression", .str "s.id")]]),
    ("limit", .int 7)]⟩

def storesSource : DataSource :=
  ⟨1, 1, "crm", "postgresql", "db.internal", 5432, "crm", "etl", "cafebabe"⟩

def storesExtractor : Extractor :=
  ⟨⟨"0123456789abcdef", 5, 10⟩, fun _ _ => .ok (some storesSource), fun _ _ => .error "down", 3⟩

theorem extraction_follows_document_stores :
    storesExtractor.Refuses (storesPipeline "stores; --")
        (.validation .baseTable (.fragment (.invalidIdentifier "stores; --"))) ∧
      storesExtractor.CarriesOut (storesPipeline "stores") storesSource
        "SELECT\n    s.id AS id\nFROM stores\nLIMIT 7"
        "SELECT\n    s.id AS id\nFROM stores\nLIMIT 3" := by
  have rejecting := extraction_follows_document storesExtractor (storesPipeline "stores; --")
    storesSource .postgres rfl rfl
  have accepting := extraction_follows_document storesExtractor (storesPipeline "stores")
    storesSource .postgres rfl rfl
  have refused := rejecting.refused _ rfl storesExtractor.resolver storesExtractor.network
  obtain ⟨config, base, readable, unlimited, carries⟩ := accepting.accepted _ rfl
  have form : config = { baseTable := "stores", mappings := [⟨"id", "s.id"⟩], limit := some 7 } :=
    (Except.ok.inj readable).symm
  subst form
  have text : base = "SELECT\n    s.id AS id\nFROM stores" := (Except.ok.inj unlimited).symm
  subst text
  exact ⟨refused, carries⟩

end Geoflow.Extractor
