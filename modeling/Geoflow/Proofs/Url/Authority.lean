import Geoflow.Proofs.Numeral
import Geoflow.Proofs.Outcome
import Geoflow.Proofs.Text.Occurrence
import Geoflow.Proofs.Url.Percent
import Geoflow.Url.Authority
import Geoflow.Url.Path

set_option autoImplicit false

namespace Geoflow.Url

variable {c : Char} {cs host user server rest : List Char}

def isBreak (c : Char) : Bool := c == '@' || endsAuthority c

/-- A text that cannot end the part of an address that it stands in. -/
def Unbroken (cs : List Char) : Prop := ∀ c ∈ cs, isBreak c = false

theorem Unbroken.append (front : Unbroken cs) (back : Unbroken rest) : Unbroken (cs ++ rest) := by
  intro c mem
  rcases List.mem_append.mp mem with inFront | inBack
  · exact front c inFront
  · exact back c inBack

theorem Unbroken.cons (first : isBreak c = false) (later : Unbroken cs) : Unbroken (c :: cs) :=
  List.forall_mem_cons.mpr ⟨first, later⟩

theorem unbroken_nil : Unbroken [] := by
  intro c mem
  cases mem

theorem isBreak_iff : isBreak c = true ↔ c = '@' ∨ c = '/' ∨ c = '?' ∨ c = '#' := by
  simp only [isBreak, endsAuthority, Bool.or_eq_true, beq_iff_eq, or_assoc]

theorem Unbroken.not_mem_at (unbroken : Unbroken cs) : '@' ∉ cs := by
  intro mem
  cases unbroken '@' mem

theorem isBreak_digitChar (n : Nat) : isBreak n.digitChar = false := by
  refine Bool.eq_false_iff.mpr fun inside => ?_
  rcases isBreak_iff.mp inside with equal | equal | equal | equal
  all_goals exact absurd equal (Nat.digitChar_ne _ (by decide))

theorem unbroken_toDigits {base : Nat} (large : 1 < base) (n : Nat) :
    Unbroken (Nat.toDigits base n) := by
  induction n using Nat.strongRecOn with
  | ind n ih =>
    rw [Nat.toDigits_eq_if large]
    split
    · exact .cons (isBreak_digitChar n) unbroken_nil
    · rename_i long
      have smaller : n / base < n := Nat.div_lt_self (by omega) large
      exact (ih _ smaller).append (.cons (isBreak_digitChar _) unbroken_nil)

theorem unbroken_joined {parts : List (List Char)} (each : ∀ part ∈ parts, Unbroken part) :
    Unbroken (Text.joined [':'] parts) := by
  have colon : isBreak ':' = false := rfl
  fun_induction Text.joined [':'] parts with
  | case1 => exact unbroken_nil
  | case2 part => exact each part List.mem_cons_self
  | case3 part rest more ih =>
    obtain ⟨first, later⟩ := List.forall_mem_cons.mp each
    exact (first.append (.cons colon unbroken_nil)).append (ih later)

theorem unbroken_render (ns : List Nat) : Unbroken (Ipv6.render ns) := by
  have colon : isBreak ':' = false := rfl
  have pieces : ∀ ns : List Nat, Unbroken (Text.joined [':'] (ns.map Ipv6.pieceText)) := by
    intro ns
    refine unbroken_joined fun part mem => ?_
    obtain ⟨n, -, rfl⟩ := List.mem_map.mp mem
    exact unbroken_toDigits (by omega) n
  unfold Ipv6.render
  dsimp only
  split
  · exact pieces ns
  · exact ((pieces _).append (.cons colon (.cons colon unbroken_nil))).append (pieces _)

theorem isForbiddenInHost_of_isBreak (inside : isBreak c = true) : isForbiddenInHost c = true := by
  rcases isBreak_iff.mp inside with rfl | rfl | rfl | rfl <;> rfl

theorem isAdded_of_isBreak (inside : isBreak c = true) : Percent.isAdded c = false := by
  rcases isBreak_iff.mp inside with rfl | rfl | rfl | rfl <;> rfl

/-- A written host has no character that ends a part. -/
theorem unbroken_of_readOpaqueHost (read : readOpaqueHost cs = .ok host) : Unbroken host := by
  have openBracket : isBreak '[' = false := rfl
  have closeBracket : isBreak ']' = false := rfl
  unfold readOpaqueHost at read
  split at read
  · split at read
    · split at read
      · cases read
        exact .cons openBracket
          ((unbroken_render _).append (.cons closeBracket unbroken_nil))
      · cases read
    · cases read
  · split at read
    · cases read
    · rename_i allowed
      cases read
      intro c mem
      refine Bool.eq_false_iff.mpr fun inside => allowed ?_
      have inHost := (Percent.mem_encode Percent.covers_controls mem (isAdded_of_isBreak inside)).1
      exact List.any_eq_true.mpr ⟨c, inHost, isForbiddenInHost_of_isBreak inside⟩

theorem Authority.exists_readHost {ends : Char → Bool}
    {readHost : List Char → Except AddressFault (List Char)} {authority : Authority}
    (read : Authority.read ends readHost cs = .ok authority) :
    ∃ text, readHost text = .ok authority.host := by
  simp only [Authority.read, guard_eq_ok_iff, bind_eq_ok_iff] at read
  obtain ⟨-, host, fromText, -, ⟨port, after⟩, -, -, whole⟩ := read
  cases whole
  exact ⟨_, fromText⟩

theorem takeWhile_append_path {front more : List Char}
    (inside : ∀ c ∈ front, endsAuthority c = false) :
    (front ++ '/' :: more).takeWhile (fun c => !endsAuthority c) = front := by
  have goesOn : ∀ c ∈ front, (!endsAuthority c) = true := by
    intro c mem
    rw [inside c mem, Bool.not_false]
  have stops : endsAuthority '/' = true := rfl
  rw [List.takeWhile_append_of_pos goesOn, List.takeWhile_cons, stops]
  exact List.append_nil front

theorem splitUser_of_not_mem (noAt : '@' ∉ server) : splitUser server = (none, server) := by
  have all : ∀ c ∈ server.reverse, (c != '@') = true := by
    intro c mem
    exact bne_iff_ne.mpr fun equal => noAt (equal ▸ List.mem_reverse.mp mem)
  have whole : (server.reverse.takeWhile (· != '@')).reverse = server := by
    rw [← List.append_nil server.reverse, List.takeWhile_append_of_pos all]
    simp
  simp only [splitUser, whole, if_true]

theorem splitUser_append (noAt : '@' ∉ server) :
    splitUser (user ++ '@' :: server) = (some user, server) := by
  have all : ∀ c ∈ server.reverse, (c != '@') = true := by
    intro c mem
    exact bne_iff_ne.mpr fun equal => noAt (equal ▸ List.mem_reverse.mp mem)
  have after : ((user ++ '@' :: server).reverse.takeWhile (· != '@')).reverse = server := by
    have form : (user ++ '@' :: server).reverse = server.reverse ++ '@' :: user.reverse := by simp
    rw [form, List.takeWhile_append_of_pos all, List.takeWhile_cons, bne_self_eq_false]
    simp
  have front : (user ++ '@' :: server).length - server.length - 1 = user.length := by
    rw [List.length_append, List.length_cons]
    omega
  have shorter : server.length ≠ (user ++ '@' :: server).length := by
    rw [List.length_append, List.length_cons]
    omega
  simp only [splitUser, after, front, if_neg shorter, List.take_left]

theorem slash_first (levels : List (List Char)) (last : List Char) :
    ∃ more, (levels.flatMap fun level => '/' :: level) ++ '/' :: last = '/' :: more := by
  cases levels with
  | nil => exact ⟨last, rfl⟩
  | cons level levels => exact ⟨_, rfl⟩

theorem walk_eq_slash_cons {segments : List (List Char)} (some : segments ≠ [])
    (levels : List (List Char)) : ∃ more, walk levels segments = '/' :: more := by
  fun_induction walk levels segments with
  | case1 => exact absurd rfl some
  | case2 => exact slash_first _ _
  | case3 => exact slash_first _ _
  | case4 => exact slash_first _ _
  | case5 _ _ _ notLast _ ih => exact ih notLast
  | case6 _ _ _ notLast _ _ ih => exact ih notLast
  | case7 _ _ _ notLast _ _ ih => exact ih notLast

theorem pathOf_eq_slash_cons {segments : List (List Char)} (some : segments ≠ []) :
    ∃ more, pathOf segments = '/' :: more :=
  walk_eq_slash_cons (fun none => some (List.map_eq_nil_iff.mp none)) []

end Geoflow.Url
