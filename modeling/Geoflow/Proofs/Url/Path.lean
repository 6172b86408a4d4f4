import Mathlib.Data.List.Basic
import Geoflow.Proofs.Url.Authority
import Geoflow.Proofs.Url.Decode

set_option autoImplicit false

namespace Geoflow

namespace Percent

variable {cs more : List Char}

theorem pair?_append_slash (cs more : List Char) :
    pair? (cs ++ '/' :: more) = (pair? cs).map fun found => (found.1, found.2 ++ '/' :: more) := by
  have slash : Hex.charValue? '/' = none := rfl
  match cs with
  | [] =>
    cases more with
    | nil => rfl
    | cons c more => simp only [pair?, List.nil_append, slash, Option.map_none]
  | [c] =>
    cases value : Hex.charValue? c <;> simp [pair?, slash, value]
  | high :: low :: rest =>
    cases highValue : Hex.charValue? high <;> cases lowValue : Hex.charValue? low <;>
      simp [pair?, highValue, lowValue]

theorem octets_append_slash (cs more : List Char) :
    octets (cs ++ '/' :: more) = octets cs ++ 0x2F :: octets more := by
  have notPercent : '/' ≠ '%' := by decide
  induction cs using reading_induction with
  | nil => exact octets_cons notPercent
  | pair cs b rest found ih =>
    have behind := pair?_append_slash cs more
    rw [found, Option.map_some] at behind
    rw [List.cons_append, octets_pair behind, octets_pair found, ih, List.cons_append]
  | lone cs alone ih =>
    have behind := pair?_append_slash cs more
    rw [alone, Option.map_none] at behind
    rw [List.cons_append, octets_lone behind, octets_lone alone, ih, List.cons_append]
  | other c cs other ih =>
    rw [List.cons_append, octets_cons other, octets_cons other, ih, List.append_assoc]

end Percent

namespace Url

variable {cs segment : List Char} {levels segments : List (List Char)}

/-- Levels with a slash in front of each. -/
def slashed (levels : List (List Char)) : List Char := levels.flatMap fun level => '/' :: level

theorem slashed_append (front back : List (List Char)) :
    slashed (front ++ back) = slashed front ++ slashed back := List.flatMap_append

theorem slashed_singleton (level : List Char) : slashed [level] = '/' :: level :=
  List.flatMap_singleton _ level

def isDot (segment : List Char) : Bool := isDoubleDot segment || isSingleDot segment

def levelsBehind (levels : List (List Char)) (segment : List Char) : List (List Char) :=
  if isDoubleDot segment then goUp levels
  else if isSingleDot segment then levels
  else levels ++ [segment]

theorem levelsBehind_of_not_dot (levels : List (List Char)) (plain : isDot segment = false) :
    levelsBehind levels segment = levels ++ [segment] := by
  obtain ⟨notDouble, notSingle⟩ := Bool.or_eq_false_iff.mp plain
  simp only [levelsBehind, notDouble, notSingle, Bool.false_eq_true, if_false]

/-- A dot segment at the end leaves an empty level. -/
theorem walk_last (levels : List (List Char)) (last : List Char) : walk levels [last] =
    slashed (levelsBehind levels last ++ if isDot last then [[]] else []) := by
  simp only [walk, levelsBehind, isDot]
  split
  · rename_i double
    simp only [double, Bool.true_or, if_true, slashed_append, slashed_singleton]
    rfl
  · rename_i notDouble
    split
    · rename_i single
      simp only [notDouble, single, Bool.or_true, if_true, slashed_append, slashed_singleton]
      rfl
    · rename_i notSingle
      simp only [notDouble, notSingle, Bool.or_self, Bool.false_eq_true, if_false, List.append_nil,
        slashed_append, slashed_singleton]
      rfl

theorem walk_cons_cons (levels : List (List Char)) (segment next : List Char)
    (rest : List (List Char)) : walk levels (segment :: next :: rest) =
      walk (levelsBehind levels segment) (next :: rest) := by
  rw [walk, levelsBehind]
  · split
    · rfl
    · split <;> rfl
  · intro none
    cases none

theorem walk_of_no_dots (plain : ∀ segment ∈ segments, isDot segment = false) :
    walk levels segments = slashed (levels ++ segments) := by
  induction segments generalizing levels with
  | nil =>
    rw [List.append_nil]
    rfl
  | cons segment rest ih =>
    obtain ⟨first, later⟩ := List.forall_mem_cons.mp plain
    have behind := levelsBehind_of_not_dot levels first
    cases rest with
    | nil => rw [walk_last, behind, first, if_neg Bool.false_ne_true, List.append_nil]
    | cons next rest =>
      rw [walk_cons_cons, ih later, behind, List.append_assoc, List.singleton_append]

/-- The number of octets that levels stand for, slashes included. -/
def weight (levels : List (List Char)) : Nat := (Percent.octets (slashed levels)).length

theorem weight_cons (level : List Char) (levels : List (List Char)) :
    weight (level :: levels) = 1 + (Percent.octets level).length + weight levels := by
  have slash : ∀ cs, Percent.octets ('/' :: cs) = 0x2F :: Percent.octets cs :=
    fun cs => Percent.octets_cons (by decide)
  have front : slashed (level :: levels) = ('/' :: level) ++ slashed levels := by
    rw [slashed, List.flatMap_cons, slashed]
  cases levels with
  | nil =>
    rw [weight, front, slashed, List.flatMap_nil, List.append_nil, slash, List.length_cons]
    change _ = 1 + _ + 0
    omega
  | cons next levels =>
    have behind : slashed (next :: levels) = '/' :: (next ++ slashed levels) := by
      rw [slashed, List.flatMap_cons, slashed, List.cons_append]
    rw [weight, weight, front, behind, Percent.octets_append_slash, slash, slash,
      List.length_append, List.length_cons, List.length_cons]
    omega

theorem weight_append (front back : List (List Char)) :
    weight (front ++ back) = weight front + weight back := by
  induction front with
  | nil => exact (Nat.zero_add _).symm
  | cons level front ih =>
    rw [List.cons_append, weight_cons, weight_cons, ih]
    omega

theorem weight_goUp_le (levels : List (List Char)) : weight (goUp levels) ≤ weight levels := by
  unfold goUp
  split
  · exact Nat.le_refl _
  · cases levels using List.reverseRecOn with
    | nil => exact Nat.le_refl _
    | append_singleton levels last =>
      rw [List.dropLast_concat, weight_append]
      omega

theorem weight_singleton (level : List Char) :
    weight [level] = 1 + (Percent.octets level).length := weight_cons level []

theorem octets_of_isSingleDot (single : isSingleDot segment = true) :
    Percent.octets segment = [0x2E] := by
  obtain ⟨spelling, listed, same⟩ := List.any_eq_true.mp single
  have all : ∀ spelling ∈ [".", "%2e", "%2E"], Percent.octets spelling.toList = [0x2E] := by decide
  rw [← beq_iff_eq.mp same]
  exact all spelling listed

theorem octets_of_isDoubleDot (double : isDoubleDot segment = true) :
    Percent.octets segment = [0x2E, 0x2E] := by
  obtain ⟨spelling, listed, same⟩ := List.any_eq_true.mp double
  have all : ∀ spelling ∈ ["..", "%2e%2e", "%2e%2E", "%2E%2e", "%2E%2E", "%2e.", "%2E.", ".%2e",
      ".%2E"], Percent.octets spelling.toList = [0x2E, 0x2E] := by decide
  rw [← beq_iff_eq.mp same]
  exact all spelling listed

theorem weight_levelsBehind_of_dot (levels : List (List Char)) (dot : isDot segment = true) :
    weight (levelsBehind levels segment) + 2 ≤ weight levels + weight [segment] := by
  rw [weight_singleton, levelsBehind]
  split
  · rename_i double
    have up := weight_goUp_le levels
    rw [octets_of_isDoubleDot double, List.length_cons, List.length_singleton]
    omega
  · rename_i notDouble
    split
    · rename_i single
      rw [octets_of_isSingleDot single, List.length_singleton]
    · rename_i notSingle
      rw [isDot, Bool.eq_false_iff.mpr notDouble, Bool.eq_false_iff.mpr notSingle] at dot
      cases dot

theorem weight_levelsBehind_of_not_dot (levels : List (List Char))
    (plain : isDot segment = false) :
    weight (levelsBehind levels segment) = weight levels + weight [segment] := by
  rw [levelsBehind_of_not_dot levels plain, weight_append]

/-- Resolving never makes a path longer, and every dot segment makes it shorter. -/
theorem length_octets_walk_le (levels segments : List (List Char)) :
    (Percent.octets (walk levels segments)).length + segments.countP isDot ≤
      weight levels + weight segments := by
  induction segments generalizing levels with
  | nil => exact Nat.le_add_right _ _
  | cons segment rest ih =>
    have front : weight (segment :: rest) = weight [segment] + weight rest :=
      weight_append [segment] rest
    cases dot : isDot segment with
    | true =>
      have behind := weight_levelsBehind_of_dot levels dot
      rw [List.countP_cons_of_pos dot, front]
      cases rest with
      | nil =>
        have last := weight_append (levelsBehind levels segment) [[]]
        have empty : weight [[]] = 1 := rfl
        rw [walk_last, dot, if_pos rfl, ← weight, List.countP_nil]
        omega
      | cons next rest =>
        have later := ih (levelsBehind levels segment)
        rw [walk_cons_cons]
        omega
    | false =>
      have behind := weight_levelsBehind_of_not_dot levels dot
      rw [List.countP_cons_of_neg (Bool.eq_false_iff.mp dot), front]
      cases rest with
      | nil =>
        rw [walk_last, dot, if_neg Bool.false_ne_true, List.append_nil, ← weight, List.countP_nil]
        omega
      | cons next rest =>
        have later := ih (levelsBehind levels segment)
        rw [walk_cons_cons]
        omega

section

variable {allowed : Char → Prop} (inLevels : ∀ level ∈ levels, ∀ c ∈ level, allowed c)
include inLevels

theorem forall_mem_slashed (slash : allowed '/') : ∀ c ∈ slashed levels, allowed c := by
  intro c mem
  obtain ⟨level, listed, inLevel⟩ := List.mem_flatMap.mp mem
  rcases List.mem_cons.mp inLevel with rfl | inside
  · exact slash
  · exact inLevels level listed c inside

theorem forall_mem_levelsBehind (inSegment : ∀ c ∈ segment, allowed c) :
    ∀ level ∈ levelsBehind levels segment, ∀ c ∈ level, allowed c := by
  intro level mem
  unfold levelsBehind goUp at mem
  split at mem
  · split at mem
    · exact inLevels level mem
    · exact inLevels level (List.mem_of_mem_dropLast mem)
  · split at mem
    · exact inLevels level mem
    · rcases List.mem_append.mp mem with old | new
      · exact inLevels level old
      · rwa [List.mem_singleton.mp new]

/-- Every character of a path is a slash or was there before. -/
theorem forall_mem_walk (slash : allowed '/')
    (inSegments : ∀ segment ∈ segments, ∀ c ∈ segment, allowed c) :
    ∀ c ∈ walk levels segments, allowed c := by
  induction segments generalizing levels with
  | nil => exact forall_mem_slashed inLevels slash
  | cons segment rest ih =>
    obtain ⟨first, later⟩ := List.forall_mem_cons.mp inSegments
    have behind := forall_mem_levelsBehind inLevels first
    cases rest with
    | nil =>
      rw [walk_last]
      refine forall_mem_slashed (List.forall_mem_append.mpr ⟨behind, fun level mem => ?_⟩) slash
      split at mem
      · rw [List.mem_singleton.mp mem]
        exact fun c none => absurd none List.not_mem_nil
      · cases mem
    | cons next rest =>
      rw [walk_cons_cons]
      exact ih behind later

end

/-- A path has neither of the characters that end it. -/
theorem not_mem_pathOf {mark : Char} (ends : mark = '?' ∨ mark = '#')
    (segments : List (List Char)) : mark ∉ pathOf segments := by
  intro inside
  have hidden : Percent.isAdded mark = false ∧ Percent.inPath (Percent.ascii mark) = true ∧
      mark ≠ '/' := by
    rcases ends with rfl | rfl <;> decide
  have inLevels : ∀ level ∈ ([] : List (List Char)), ∀ c ∈ level, c ≠ mark := by
    intro level none
    cases none
  refine forall_mem_walk inLevels hidden.2.2.symm ?_ mark inside rfl
  rintro _ listed c mem rfl
  obtain ⟨segment, -, rfl⟩ := List.mem_map.mp listed
  have kept := (Percent.mem_encode Percent.covers_inPath mem hidden.1).2
  rw [hidden.2.1] at kept
  cases kept

/-- Splitting at slashes and writing a slash in front of each part, character by character. -/
theorem slashed_splitAt (written : Char → List Char) (slash : written '/' = ['/'])
    (cs : List Char) : slashed ((Text.splitAt '/' cs).map fun part => part.flatMap written) =
      '/' :: cs.flatMap written := by
  induction cs with
  | nil => rfl
  | cons c cs ih =>
    unfold Text.splitAt
    split
    · rename_i same
      rw [List.map_cons, List.flatMap_nil, List.flatMap_cons, same, slash, ← List.singleton_append,
        List.singleton_append, List.singleton_append, ← ih]
      rfl
    · split
      · rename_i none
        exact absurd none (Text.splitAt_ne_nil '/' cs)
      · rename_i part parts form
        rw [form, List.map_cons, slashed, List.flatMap_cons, List.cons_append] at ih
        obtain ⟨-, behind⟩ := List.cons.inj ih
        rw [List.map_cons, slashed, List.flatMap_cons, List.flatMap_cons, List.flatMap_cons,
          List.cons_append, List.append_assoc, behind]

theorem slashed_splitAt_encode (cs : List Char) :
    slashed ((Text.splitAt '/' cs).map (Percent.encode Percent.inPath)) =
      '/' :: Percent.encode Percent.inPath cs := by
  let written := fun c : Char =>
    (String.utf8EncodeChar c).flatMap (Percent.encodeOctet Percent.inPath)
  have form : Percent.encode Percent.inPath = fun cs => cs.flatMap written := by
    funext cs
    exact List.flatMap_assoc
  rw [form]
  exact slashed_splitAt written rfl cs

theorem infix_of_mem_splitAt (mem : segment ∈ Text.splitAt '/' cs) : segment <:+: '/' :: cs := by
  have whole := slashed_splitAt (fun c => [c]) rfl cs
  simp only [List.flatMap_singleton', List.map_id'] at whole
  have inside : '/' :: segment <:+: slashed (Text.splitAt '/' cs) := by
    rw [slashed, List.flatMap_def]
    exact List.infix_of_mem_flatten (List.mem_map_of_mem mem)
  rw [whole] at inside
  exact (List.infix_cons (List.infix_refl segment)).trans inside

theorem hasEscape_of_segment (mem : segment ∈ Text.splitAt '/' cs)
    (escape : Percent.HasEscape segment) : Percent.HasEscape cs := by
  obtain ⟨high, low, inside, digits⟩ := escape
  have whole : Percent.HasEscape ('/' :: cs) :=
    ⟨high, low, inside.trans (infix_of_mem_splitAt mem), digits⟩
  rcases Percent.hasEscape_cons.mp whole with ⟨percent, -⟩ | inText
  · exact absurd percent (by decide)
  · exact inText

/-- The path of a text that has no dot segments once it is encoded. -/
theorem pathOf_splitAt (plain : ∀ segment ∈ Text.splitAt '/' cs,
    isDot (Percent.encode Percent.inPath segment) = false) :
    pathOf (Text.splitAt '/' cs) = '/' :: Percent.encode Percent.inPath cs := by
  rw [pathOf, walk_of_no_dots (List.forall_mem_map.mpr plain), List.nil_append,
    slashed_splitAt_encode]

/-- A path is at most as long as the text it was made from, and shorter by what is resolved. -/
theorem length_octets_pathOf_le (cs : List Char) :
    (Percent.octets (pathOf (Text.splitAt '/' cs))).length +
        (Text.splitAt '/' cs).countP
          (fun segment => isDot (Percent.encode Percent.inPath segment)) ≤
      1 + (Percent.octets cs).length := by
  have bound := length_octets_walk_le []
    ((Text.splitAt '/' cs).map (Percent.encode Percent.inPath))
  have whole : weight ((Text.splitAt '/' cs).map (Percent.encode Percent.inPath)) =
      1 + (Percent.octets cs).length := by
    rw [weight, slashed_splitAt_encode, Percent.octets_cons (by decide),
      Percent.octets_encode Percent.covers_inPath Percent.spares_inPath, List.length_append]
    rfl
  rw [whole, List.countP_map] at bound
  have start : weight [] = 0 := rfl
  rw [start, Nat.zero_add] at bound
  exact bound

theorem isDot_encode_iff (plain : ¬Percent.HasEscape segment) :
    isDot (Percent.encode Percent.inPath segment) = true ↔
      segment = ['.'] ∨ segment = ['.', '.'] := by
  have octets : Percent.octets (Percent.encode Percent.inPath segment) = Utf8.encode segment := by
    rw [Percent.octets_encode Percent.covers_inPath Percent.spares_inPath,
      Percent.octets_of_not_hasEscape plain]
  constructor
  · intro dot
    rcases Bool.or_eq_true_iff.mp dot with double | single
    · rw [octets_of_isDoubleDot double] at octets
      exact .inr (Utf8.encode_injective octets.symm)
    · rw [octets_of_isSingleDot single] at octets
      exact .inl (Utf8.encode_injective octets.symm)
  · rintro (rfl | rfl) <;> rfl

/-- Nothing in the text is passed over, resolved or decoded where it stands in a path. -/
structure Settled (cs : List Char) : Prop where
  noIgnored : ∀ c ∈ cs, isIgnored c = false
  noDots : ∀ segment ∈ Text.splitAt '/' cs, segment ≠ ['.'] ∧ segment ≠ ['.', '.']
  noEscape : ¬Percent.HasEscape cs

theorem filter_ignored_eq_self (none : ∀ c ∈ cs, isIgnored c = false) :
    (cs.filter fun c => !isIgnored c) = cs := by
  refine List.filter_eq_self.mpr fun c mem => ?_
  rw [none c mem, Bool.not_false]

/-- Passing characters over leaves as many octets only where there are none to pass over. -/
theorem length_filter_ignored (cs : List Char) :
    (Utf8.encode (cs.filter fun c => !isIgnored c)).length + cs.countP isIgnored ≤
      (Utf8.encode cs).length := by
  induction cs with
  | nil => exact Nat.le_refl _
  | cons c cs ih =>
    have size := List.length_pos_of_ne_nil (Utf8.encodeChar_ne_nil c)
    rw [Utf8.encode_cons, List.length_append]
    cases ignored : isIgnored c with
    | true =>
      rw [List.filter_cons_of_neg (by simp [ignored]), List.countP_cons_of_pos ignored]
      omega
    | false =>
      rw [List.filter_cons_of_pos (by simp [ignored]), Utf8.encode_cons, List.length_append,
        List.countP_cons_of_neg (by simp [ignored])]
      omega

/-- The path of a text is read back as that text exactly if the text is settled. -/
theorem decode_pathOf_iff (cs : List Char) :
    Percent.decode ((pathOf (Text.splitAt '/' (cs.filter fun c => !isIgnored c))).drop 1) = .ok cs ↔
      Settled cs := by
  constructor
  · intro read
    generalize kept : (cs.filter fun c => !isIgnored c) = text at read
    obtain ⟨more, form⟩ := pathOf_eq_slash_cons (Text.splitAt_ne_nil '/' text)
    rw [form, List.drop_one, List.tail_cons, Percent.decode_eq_ok_iff] at read
    have resolved := length_octets_pathOf_le text
    rw [form, Percent.octets_cons (by decide), read, List.length_append] at resolved
    have slash : (String.utf8EncodeChar '/').length = 1 := rfl
    have passedOver := length_filter_ignored cs
    have decoded := Percent.length_octets_le text
    rw [kept] at passedOver
    have noneIgnored : cs.countP isIgnored = 0 := by omega
    have noIgnored : ∀ c ∈ cs, isIgnored c = false := by
      intro c mem
      exact Bool.eq_false_iff.mpr (List.countP_eq_zero.mp noneIgnored c mem)
    rw [filter_ignored_eq_self noIgnored] at kept
    subst kept
    have noEscape : ¬Percent.HasEscape cs := by
      intro escape
      have shorter := decoded.2 escape
      omega
    refine ⟨noIgnored, fun segment mem => ?_, noEscape⟩
    have noneResolved : (Text.splitAt '/' cs).countP
        (fun segment => isDot (Percent.encode Percent.inPath segment)) = 0 := by omega
    have plain := List.countP_eq_zero.mp noneResolved segment mem
    have dots := isDot_encode_iff fun escape => noEscape (hasEscape_of_segment mem escape)
    exact not_or.mp (mt dots.mpr plain)
  · intro settled
    rw [filter_ignored_eq_self settled.noIgnored, pathOf_splitAt, List.drop_one, List.tail_cons,
      Percent.decode_encode Percent.covers_inPath Percent.spares_inPath,
      Percent.decode_self_iff.mpr settled.noEscape]
    intro segment mem
    have dots := isDot_encode_iff fun escape => settled.noEscape (hasEscape_of_segment mem escape)
    exact Bool.eq_false_iff.mpr (mt dots.mp (not_or.mpr (settled.noDots segment mem)))

end Url

end Geoflow
