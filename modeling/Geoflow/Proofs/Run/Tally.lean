import Geoflow.Proofs.Run.Counting
import Mathlib.Algebra.Ring.Nat

set_option autoImplicit false

namespace Geoflow

def Bucket.label? : Bucket → Option String
  | accurate => some "accurate"
  | fairly => some "fairly_accurate"
  | inaccurate => some "inaccurate"
  | error => none

def ValidationResult.isLabelled (label : String) (r : ValidationResult) : Bool :=
  r.error.isNone && r.accuracyLevel == label

theorem ValidationResult.bucket_eq_iff_isLabelled {bucket : Bucket} {label : String}
    (named : bucket.label? = some label) (r : ValidationResult) :
    r.bucket = bucket ↔ r.isLabelled label = true := by
  unfold ValidationResult.bucket isLabelled
  cases r.error with
  | some text => cases bucket <;> cases named <;> simp
  | none =>
    generalize r.accuracyLevel = level
    cases bucket <;> cases named <;> grind

/-- Every result falls into one bucket. -/
theorem countP_bucket_sum (results : List ValidationResult) :
    results.length = results.countP (·.bucket = .accurate) + results.countP (·.bucket = .fairly) +
      results.countP (·.bucket = .inaccurate) + results.countP (·.bucket = .error) := by
  induction results with
  | nil => rfl
  | cons r rest ih =>
    simp only [List.length_cons, List.countP_cons]
    cases r.bucket <;> simp <;> omega

namespace RunSession

variable {results front back : List ValidationResult}

/-- A new session after these results. -/
def ofResults (ownerId : Int64) (now : Instant) (results : List ValidationResult) : RunSession :=
  results.foldl record (.empty ownerId now)

/-- Neither the owner nor the time of a session changes. -/
theorem foldl_record_frame (results : List ValidationResult) (s : RunSession) :
    (results.foldl record s).ownerId = s.ownerId ∧
      (results.foldl record s).createdAt = s.createdAt := by
  induction results generalizing s with
  | nil => exact ⟨rfl, rfl⟩
  | cons r rest ih =>
    have step : (s.record r).ownerId = s.ownerId ∧ (s.record r).createdAt = s.createdAt := by
      unfold record
      cases r.bucket <;> exact ⟨rfl, rfl⟩
    obtain ⟨owner, time⟩ := ih (s.record r)
    exact ⟨owner.trans step.1, time.trans step.2⟩

theorem ofResults_totalCount (ownerId : Int64) (now : Instant) (results : List ValidationResult) :
    (ofResults ownerId now results).totalCount = .ofNat results.length := by
  rw [ofResults, totalCount_foldl]
  exact UInt64.zero_add _

theorem ofResults_count (ownerId : Int64) (now : Instant) (results : List ValidationResult)
    (bucket : Bucket) :
    (ofResults ownerId now results).count bucket = .ofNat (results.countP (·.bucket = bucket)) := by
  rw [ofResults, count_foldl, count_empty, UInt64.zero_add]

theorem ext_count {s t : RunSession} (owner : s.ownerId = t.ownerId)
    (time : s.createdAt = t.createdAt) (total : s.totalCount = t.totalCount)
    (counts : ∀ bucket, s.count bucket = t.count bucket) : s = t := by
  have accurate := counts .accurate
  have fairly := counts .fairly
  have inaccurate := counts .inaccurate
  have error := counts .error
  cases s
  cases t
  simp only [count] at *
  simp only [owner, time, total, accurate, fairly, inaccurate, error]

/-- The order of the results does not matter, however many there are. -/
theorem ofResults_perm (ownerId : Int64) (now : Instant) (same : front.Perm back) :
    ofResults ownerId now front = ofResults ownerId now back := by
  have frontFrame := foldl_record_frame front (.empty ownerId now)
  have backFrame := foldl_record_frame back (.empty ownerId now)
  apply ext_count
  · exact frontFrame.1.trans backFrame.1.symm
  · exact frontFrame.2.trans backFrame.2.symm
  · rw [ofResults_totalCount, ofResults_totalCount, same.length_eq]
  · intro bucket
    rw [ofResults_count, ofResults_count, same.countP_eq]

section Fitting

variable (ownerId : Int64) (now : Instant) (fits : results.length < 2 ^ 64)

include fits

theorem ofResults_totalCount_toNat :
    (ofResults ownerId now results).totalCount.toNat = results.length := by
  rw [ofResults_totalCount]
  exact UInt64.toNat_ofNat_of_lt' fits

theorem ofResults_count_toNat (bucket : Bucket) :
    ((ofResults ownerId now results).count bucket).toNat =
      results.countP (·.bucket = bucket) := by
  rw [ofResults_count]
  exact UInt64.toNat_ofNat_of_lt' (Nat.lt_of_le_of_lt List.countP_le_length fits)

end Fitting

/-- What the counters of a session say of the results it has counted. -/
structure Tally (results : List ValidationResult) (s : RunSession) : Prop where
  total : s.totalCount.toNat = results.length
  parts : s.totalCount.toNat = s.accurateCount.toNat + s.fairlyCount.toNat +
    s.inaccurateCount.toNat + s.errorCount.toNat
  accurate : s.accurateCount.toNat = results.countP (·.isLabelled "accurate")
  fairly : s.fairlyCount.toNat = results.countP (·.isLabelled "fairly_accurate")
  inaccurate : s.inaccurateCount.toNat = results.countP (·.isLabelled "inaccurate")
  /-- An error counts before any label, and so does a label that is none of the three. -/
  error : s.errorCount.toNat = results.countP (·.isUnplaced)

theorem tally_ofResults (ownerId : Int64) (now : Instant) (fits : results.length < 2 ^ 64) :
    Tally results (ofResults ownerId now results) := by
  have total := ofResults_totalCount_toNat ownerId now fits
  have counts := ofResults_count_toNat ownerId now fits
  have labelled : ∀ (bucket : Bucket) (label : String), bucket.label? = some label →
      ((ofResults ownerId now results).count bucket).toNat =
        results.countP (·.isLabelled label) := by
    intro bucket label named
    rw [counts]
    exact List.countP_congr fun r _ => by
      simp [ValidationResult.bucket_eq_iff_isLabelled named]
  constructor
  case total => exact total
  case parts =>
    rw [total, countP_bucket_sum, ← counts, ← counts, ← counts, ← counts]
    rfl
  case accurate => exact labelled .accurate _ rfl
  case fairly => exact labelled .fairly _ rfl
  case inaccurate => exact labelled .inaccurate _ rfl
  case error =>
    refine (counts .error).trans (List.countP_congr fun r _ => ?_)
    simp [ValidationResult.bucket_eq_error_iff]

/-- Every counter of the whole is the sum of the same counters of the parts. -/
structure Adds (parts : List RunSession) (whole : RunSession) : Prop where
  total : whole.totalCount.toNat = (parts.map (·.totalCount.toNat)).sum
  count : ∀ bucket, (whole.count bucket).toNat = (parts.map fun s => (s.count bucket).toNat).sum

theorem adds_ofResults (ownerId : Int64) (now : Instant)
    (batches : List (Instant × List ValidationResult))
    (fits : (batches.map (·.2)).flatten.length < 2 ^ 64) :
    Adds (batches.map fun batch => ofResults ownerId batch.1 batch.2)
      (ofResults ownerId now (batches.map (·.2)).flatten) := by
  have small : ∀ batch ∈ batches, batch.2.length < 2 ^ 64 := by
    intro batch mem
    have inside := List.sublist_flatten_of_mem (List.mem_map_of_mem (f := (·.2)) mem)
    exact Nat.lt_of_le_of_lt inside.length_le fits
  constructor
  · rw [ofResults_totalCount_toNat ownerId now fits, List.length_flatten, List.map_map,
      List.map_map]
    refine congrArg List.sum (List.map_congr_left fun batch mem => ?_)
    exact (ofResults_totalCount_toNat ownerId batch.1 (small batch mem)).symm
  · intro bucket
    rw [ofResults_count_toNat ownerId now fits, List.countP_flatten, List.map_map, List.map_map]
    refine congrArg List.sum (List.map_congr_left fun batch mem => ?_)
    exact (ofResults_count_toNat ownerId batch.1 (small batch mem) bucket).symm

/-- A new session counts each result once, whatever the order and however the run is cut. -/
theorem ofResults_counts (ownerId : Int64) (now : Instant) (results : List ValidationResult)
    (fits : results.length < 2 ^ 64) :
    Tally results (ofResults ownerId now results) ∧
      (ofResults ownerId now results).ownerId = ownerId ∧
      (∀ others : List ValidationResult, others.Perm results →
        ofResults ownerId now others = ofResults ownerId now results) ∧
      (∀ front back : List ValidationResult, front ++ back = results → ∀ earlier later,
        Adds [ofResults ownerId earlier front, ofResults ownerId later back]
          (ofResults ownerId now results)) ∧
      (∀ batches : List (Instant × List ValidationResult),
        (batches.map (·.2)).flatten = results →
          Adds (batches.map fun batch => ofResults ownerId batch.1 batch.2)
            (ofResults ownerId now results)) := by
  have cut : ∀ batches : List (Instant × List ValidationResult),
      (batches.map (·.2)).flatten = results →
        Adds (batches.map fun batch => ofResults ownerId batch.1 batch.2)
          (ofResults ownerId now results) := by
    rintro batches rfl
    exact adds_ofResults ownerId now batches fits
  refine ⟨tally_ofResults ownerId now fits, (foldl_record_frame results _).1,
    fun others => ofResults_perm ownerId now, fun front back whole earlier later => ?_, cut⟩
  exact cut [(earlier, front), (later, back)] (by simpa using whole)

/-- Results of every kind: two of one label, an unknown label, and a label beside an error. -/
def mixedResults : List ValidationResult :=
  [{ accuracyLevel := "accurate" }, { accuracyLevel := "accurate" },
    { accuracyLevel := "fairly_accurate" }, { accuracyLevel := "inaccurate" },
    { accuracyLevel := "unknown" },
    { accuracyLevel := "accurate", error := some "geocode failed" }]

theorem ofResults_counts_mixed :
    mixedResults.length < 2 ^ 64 ∧
      (ofResults 7 .epoch mixedResults).totalCount.toNat = 6 ∧
      (ofResults 7 .epoch mixedResults).accurateCount.toNat = 2 ∧
      (ofResults 7 .epoch mixedResults).fairlyCount.toNat = 1 ∧
      (ofResults 7 .epoch mixedResults).inaccurateCount.toNat = 1 ∧
      (ofResults 7 .epoch mixedResults).errorCount.toNat = 2 ∧
      ofResults 7 .epoch mixedResults.reverse = ofResults 7 .epoch mixedResults ∧
      Adds [ofResults 7 .epoch (mixedResults.take 4), ofResults 7 .epoch (mixedResults.drop 4)]
        (ofResults 7 .epoch mixedResults) := by
  have fits : mixedResults.length < 2 ^ 64 := by decide
  obtain ⟨tally, -, orders, cuts, -⟩ := ofResults_counts 7 .epoch mixedResults fits
  refine ⟨fits, tally.total, tally.accurate.trans ?_, tally.fairly.trans ?_,
    tally.inaccurate.trans ?_, tally.error.trans ?_, orders _ (List.reverse_perm mixedResults),
    cuts _ _ (List.take_append_drop 4 mixedResults) .epoch .epoch⟩ <;> decide

end RunSession

end Geoflow
