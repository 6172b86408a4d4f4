import Geoflow.Proofs.Extract.Selection
import Geoflow.Proofs.Store.Sources

set_option autoImplicit false

namespace Geoflow.Extractor

variable {x : Extractor} {s : Store} {p : Pipeline} {source : DataSource}

/-- An extractor that finds its sources in a store. -/
def withStore (x : Extractor) (s : Store) : Extractor := { x with lookup := s.sourceLookup }

def given (x : Extractor) (source : DataSource) : Extractor :=
  { x with lookup := fun _ _ => .ok (some source) }

/-- The source that a pipeline names, of its own owner. -/
def IsOwn (s : Store) (p : Pipeline) (source : DataSource) : Prop :=
  source ∈ s.sourcesOf p.ownerId ∧ source.id = p.dataSourceId

/-- The address of that source. -/
def IsOwnAddress (x : Extractor) (s : Store) (p : Pipeline) (address : String) : Prop :=
  ∃ source dialect, IsOwn s p source ∧ x.resolver.address source = .ok (dialect, address)

/-- An extraction over a store that stays with the sources of the pipeline's owner. -/
structure Confined (x : Extractor) (s : Store) (p : Pipeline) : Prop where
  selected : ∀ limit source sql,
    (x.withStore s).select p limit = .ok (source, sql) → IsOwn s p source
  previewDials : ∀ address, ((x.withStore s).preview p).contact.dialed = some address →
    x.IsOwnAddress s p address
  runDials : ∀ {σ : Type} (c : Consumer σ) (size : Nat) (state : σ) (address : String),
    ((x.withStore s).run c size state p).contact.dialed = some address → x.IsOwnAddress s p address
  /-- The store serves for nothing but this one source. -/
  own : ∀ source, IsOwn s p source → AgreeOn (x.withStore s) (x.given source) p
  missing : (∀ source, ¬ IsOwn s p source) → ∀ config, Sql.readConfig p.config = .ok config →
    (x.withStore s).Refuses p (.connection .sourceNotFound)
  unreadable : ∀ e, Sql.readConfig p.config = .error e → (x.withStore s).Refuses p e

section

variable (keeps : s.KeepsSources)
include keeps

theorem lookup_withStore_eq_some_iff :
    (x.withStore s).lookup p.dataSourceId p.ownerId = .ok (some source) ↔ IsOwn s p source := by
  rw [IsOwn, ← keeps.getSource_eq_some_iff]
  obtain ⟨found, got⟩ := keeps.getSource_total p.dataSourceId p.ownerId
  simp only [withStore, Store.sourceLookup, got, mapError_ok, Except.ok.injEq]

theorem lookup_withStore_of_missing (missing : ∀ source, ¬ IsOwn s p source) :
    (x.withStore s).lookup p.dataSourceId p.ownerId = .ok none := by
  obtain ⟨found, got⟩ := keeps.getSource_total p.dataSourceId p.ownerId
  cases found with
  | none => simp only [withStore, Store.sourceLookup, got, mapError_ok]
  | some source => exact absurd (keeps.getSource_eq_some_iff.mp got) (missing source)

theorem isOwnAddress_of_openCursor {limit : Option UInt64} {address : String}
    (dialed : ((x.withStore s).openCursor p limit).contact.dialed = some address) :
    x.IsOwnAddress s p address := by
  obtain ⟨source, sql, dialect, selected, resolved⟩ := dialed_of_openCursor dialed
  have own := (lookup_withStore_eq_some_iff keeps).mp (lookup_of_select selected)
  exact ⟨source, dialect, own, resolved⟩

theorem confined : x.Confined s p where
  selected limit source sql selected :=
    (lookup_withStore_eq_some_iff keeps).mp (lookup_of_select selected)
  previewDials address dialed := by
    rw [preview_dialed] at dialed
    exact isOwnAddress_of_openCursor keeps dialed
  runDials c size state address dialed := by
    rw [run_dialed] at dialed
    exact isOwnAddress_of_openCursor keeps dialed
  own source isOwn := agreeOn_of_lookup ((lookup_withStore_eq_some_iff (x := x) keeps).mpr isOwn)
  missing missing config readable :=
    refuses_of_select fun _ =>
      select_of_missing readable (lookup_withStore_of_missing keeps missing)
  unreadable e unreadable := refuses_of_select fun _ => select_of_unreadable unreadable

end

/-- Over every store with a history an extraction is confined to the source its pipeline names,
among those of the pipeline's owner, and over two stores with the same sources of this owner it
comes to the same. -/
theorem extraction_confined (x : Extractor) (changes : List StoreChange) (p : Pipeline) :
    x.Confined (.after changes) p ∧
      ((ExtractError.connection .sourceNotFound).code = "CONNECTION_ERROR" ∧
        (ExtractError.connection .sourceNotFound).message =
          "Connection error: data source not found or unauthorized") ∧
      ∀ others,
        (∀ source, source ∈ (Store.after changes).sourcesOf p.ownerId ↔
          source ∈ (Store.after others).sourcesOf p.ownerId) →
        AgreeOn (x.withStore (.after changes)) (x.withStore (.after others)) p := by
  have keeps := Store.after_keepsSources changes
  refine ⟨confined keeps, ⟨rfl, rfl⟩, fun others agree => ?_⟩
  have same := keeps.getSource_congr (Store.after_keepsSources others) agree p.dataSourceId
  exact agreeOn_of_lookup (by rw [Store.sourceLookup, Store.sourceLookup, same])

def sharedHistory : List StoreChange :=
  [.insertSource ⟨0, 1, "crm", "postgresql", "db.internal", 5432, "crm", "etl", "cafebabe"⟩,
    .insertSource ⟨0, 2, "erp", "mysql", "erp.internal", 3306, "erp", "root", "deadbeef"⟩]

def foreignPipeline : Pipeline := ⟨1, 1, 2, "stores", .ofEntries []⟩

def idleExtractor : Extractor :=
  ⟨⟨"0123456789abcdef", 5, 10⟩, fun _ _ => .ok none, fun _ _ => .error "unreachable", 10⟩

theorem extraction_confined_stranger :
    (∀ source, source ∈ (Store.after sharedHistory).sourcesOf 1 ↔
        source ∈ (Store.after (sharedHistory.take 1)).sourcesOf 1) ∧
      (idleExtractor.withStore (.after sharedHistory)).Refuses foreignPipeline
        (.connection .sourceNotFound) ∧
      AgreeOn (idleExtractor.withStore (.after sharedHistory))
        (idleExtractor.withStore (.after (sharedHistory.take 1))) foreignPipeline := by
  have agree : ∀ source, source ∈ (Store.after sharedHistory).sourcesOf 1 ↔
      source ∈ (Store.after (sharedHistory.take 1)).sourcesOf 1 := fun _ => Iff.rfl
  have only : (Store.after sharedHistory).sourcesOf 1 =
    [⟨1, 1, "crm", "postgresql", "db.internal", 5432, "crm", "etl", "cafebabe"⟩] := rfl
  obtain ⟨confined, -, alike⟩ := extraction_confined idleExtractor sharedHistory foreignPipeline
  refine ⟨agree, confined.missing ?_ {} rfl, alike (sharedHistory.take 1) agree⟩
  rintro source ⟨mem, named⟩
  have listed : source ∈ (Store.after sharedHistory).sourcesOf 1 := mem
  rw [only, List.mem_singleton] at listed
  subst listed
  exact absurd named (by decide)

end Geoflow.Extractor
