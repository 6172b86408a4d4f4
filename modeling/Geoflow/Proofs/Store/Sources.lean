import Geoflow.Proofs.Store.History
import Geoflow.Proofs.Store.Table
import Geoflow.Store.Services

set_option autoImplicit false

namespace Geoflow

/-- A source that was put into a row is read from it under the number of the row. -/
theorem SourceRow.read_ofSource (key : Nat) (source : DataSource) :
    (SourceRow.ofSource source).read key = .ok { source with id := Int64.ofNat key } := by
  have fits : (source.port.toNat : Int) < UInt16.size := Int.ofNat_lt.mpr source.port.toNat_lt
  have inRange : 0 ≤ (ofSource source).port ∧ (ofSource source).port < UInt16.size :=
    ⟨Int.natCast_nonneg _, fits⟩
  rw [read, if_pos inRange]
  simp [ofSource]

namespace Store

variable {s t : Store} {source : DataSource} {id ownerId : Int64}

def allSources (s : Store) : List DataSource :=
  s.sources.rows.filterMap fun (key, row) => (row.read key).toOption

def sourcesOf (s : Store) (ownerId : Int64) : List DataSource :=
  s.allSources.filter fun source => source.ownerId == ownerId

theorem mem_allSources :
    source ∈ s.allSources ↔ ∃ row ∈ s.sources.rows, row.2.read row.1 = .ok source := by
  rw [allSources, List.mem_filterMap]
  refine exists_congr fun row => and_congr_right fun _ => ?_
  dsimp only
  cases row.2.read row.1 with
  | error e => simp [Except.toOption]
  | ok own => simp [Except.toOption]

theorem mem_sourcesOf :
    source ∈ s.sourcesOf ownerId ↔ source ∈ s.allSources ∧ source.ownerId = ownerId := by
  rw [sourcesOf, List.mem_filter, beq_iff_eq]

/-- A table of sources that were put in one by one. -/
structure KeepsSources (s : Store) : Prop where
  numbered : s.sources.Numbered
  written : ∀ row ∈ s.sources.rows, ∃ source, row.2 = .ofSource source

theorem keepsSources_apply (keeps : s.KeepsSources) (change : StoreChange) :
    (change.apply s).KeepsSources := by
  obtain same | ⟨source, added⟩ := apply_sources s change
  · exact ⟨same ▸ keeps.numbered, same ▸ keeps.written⟩
  have numbered := keeps.numbered.insert (.ofSource source)
  rw [← added] at numbered
  refine ⟨numbered, ?_⟩
  rw [added]
  obtain same | ⟨-, longer⟩ := Table.insert_eq s.sources (.ofSource source)
  · rw [same]
    exact keeps.written
  · rw [longer]
    refine List.forall_mem_append.mpr ⟨keeps.written, ?_⟩
    intro row fresh
    exact ⟨source, congrArg Prod.snd (List.mem_singleton.mp fresh)⟩

theorem after_keepsSources (changes : List StoreChange) : (after changes).KeepsSources := by
  have empty : KeepsSources {} := ⟨.empty, fun _ none => absurd none List.not_mem_nil⟩
  exact after_induction empty (fun _ change keeps => keepsSources_apply keeps change) changes

namespace KeepsSources

variable (keeps : s.KeepsSources)
include keeps

theorem read {row : Nat × SourceRow} (mem : row ∈ s.sources.rows) :
    ∃ source, row.2.read row.1 = .ok source ∧ source.id = Int64.ofNat row.1 ∧
      source.ownerId = row.2.ownerId := by
  obtain ⟨source, written⟩ := keeps.written row mem
  rw [written, SourceRow.read_ofSource]
  exact ⟨_, rfl, rfl, rfl⟩

/-- Asking for a source never fails. -/
theorem getSource_total (id ownerId : Int64) : ∃ found, s.getSource id ownerId = .ok found := by
  rw [getSource]
  split
  · rename_i key row found
    obtain ⟨source, read, -, -⟩ := keeps.read (keeps.numbered.find?_eq_some_iff.mp found).1
    split
    · exact ⟨some source, by rw [read]; rfl⟩
    · exact ⟨none, rfl⟩
  · exact ⟨none, rfl⟩

theorem getSource_eq_some_iff :
    s.getSource id ownerId = .ok (some source) ↔ source ∈ s.sourcesOf ownerId ∧ source.id = id := by
  rw [mem_sourcesOf, mem_allSources]
  constructor
  · intro got
    rw [getSource] at got
    split at got
    · rename_i key row found
      obtain ⟨mem, isId⟩ := keeps.numbered.find?_eq_some_iff.mp found
      obtain ⟨own, read, number, owner⟩ := keeps.read mem
      split at got
      · rename_i isOwner
        rw [read] at got
        cases got
        exact ⟨⟨⟨(key, row), mem, read⟩, owner.trans isOwner⟩, number.trans isId⟩
      · cases got
    · cases got
  · rintro ⟨⟨⟨row, mem, read⟩, rfl⟩, rfl⟩
    obtain ⟨own, same, number, owner⟩ := keeps.read mem
    cases read.symm.trans same
    have found := keeps.numbered.find?_eq_some_iff.mpr ⟨mem, number.symm⟩
    rw [getSource, found]
    dsimp only
    rw [if_pos owner.symm, read]
    rfl

/-- What is found depends on the sources of the owner alone. -/
theorem getSource_congr (others : t.KeepsSources)
    (agree : ∀ source, source ∈ s.sourcesOf ownerId ↔ source ∈ t.sourcesOf ownerId) (id : Int64) :
    s.getSource id ownerId = t.getSource id ownerId := by
  obtain ⟨here, hereIs⟩ := keeps.getSource_total id ownerId
  obtain ⟨there, thereIs⟩ := others.getSource_total id ownerId
  have hereIff : ∀ source, here = some source ↔ source ∈ s.sourcesOf ownerId ∧ source.id = id := by
    intro source
    rw [← keeps.getSource_eq_some_iff, hereIs, Except.ok.injEq]
  have thereIff : ∀ source,
      there = some source ↔ source ∈ t.sourcesOf ownerId ∧ source.id = id := by
    intro source
    rw [← others.getSource_eq_some_iff, thereIs, Except.ok.injEq]
  have same : here = there := by
    refine Option.ext fun source => ?_
    rw [hereIff, thereIff, agree]
  rw [hereIs, thereIs, same]

end KeepsSources

end Store

end Geoflow
