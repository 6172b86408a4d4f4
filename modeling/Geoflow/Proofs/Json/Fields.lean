import Geoflow.Json.Reader
import Geoflow.Proofs.Json.Entry

set_option autoImplicit false

namespace Geoflow

namespace Json

variable {α : Type} {entries : List (String × α)} {name other : String} {p q : Nat}

/-- Entries ordered by name, each name once. -/
def Ascending (entries : List (String × α)) : Prop := (entries.map Prod.fst).Pairwise (· < ·)

instance (entries : List (String × α)) : Decidable (Ascending entries) :=
  inferInstanceAs (Decidable ((entries.map Prod.fst).Pairwise (· < ·)))

/-- Two objects have the same value under each of the names, or both none. -/
def AgreeOn (names : List String) (d d' : List (String × α)) : Prop :=
  ∀ name ∈ names, d.lookup name = d'.lookup name

theorem Ascending.tail {entry : String × α} (ascending : Ascending (entry :: entries)) :
    Ascending entries :=
  (List.pairwise_cons.mp ascending).2

theorem Ascending.first_lt {entry : String × α} (ascending : Ascending (entry :: entries)) :
    ∀ e ∈ entries, entry.1 < e.1 := by
  intro e mem
  exact (List.pairwise_cons.mp ascending).1 e.1 (List.mem_map_of_mem mem)

theorem Ascending.lt_iff (ascending : Ascending entries)
    (found : entries[p]?.map Prod.fst = some name)
    (found' : entries[q]?.map Prod.fst = some other) : p < q ↔ name < other := by
  rw [← List.getElem?_map] at found found'
  obtain ⟨inside, rfl⟩ := List.getElem?_eq_some_iff.mp found
  obtain ⟨inside', rfl⟩ := List.getElem?_eq_some_iff.mp found'
  have ordered := List.pairwise_iff_getElem.mp ascending
  constructor
  · intro less
    exact ordered p q inside inside' less
  · intro less
    by_cases before : p < q
    · exact before
    · by_cases same : p = q
      · subst same
        exact absurd less (String.lt_irrefl _)
      · have reversed := ordered q p inside' inside (by omega)
        exact absurd (String.lt_trans less reversed) (String.lt_irrefl _)

/-- A name has no entry, or one at its place. -/
theorem Ascending.entriesOf_cases (ascending : Ascending entries) (name : String) (start : Nat) :
    (entries.lookup name = none ∧ entriesOf name start entries = []) ∨
      ∃ i d, entries[i]? = some (name, d) ∧ entries.lookup name = some d ∧
        entriesOf name start entries = [(start + i, d)] := by
  induction entries generalizing start with
  | nil => exact Or.inl ⟨rfl, rfl⟩
  | cons entry rest ih =>
    obtain ⟨first, d⟩ := entry
    have later := ih ascending.tail (start + 1)
    by_cases same : first = name
    · subst same
      apply Or.inr
      refine ⟨0, d, rfl, ?_, ?_⟩
      · rw [lookup_cons_eq_ite, if_pos rfl]
      · rcases later with ⟨-, nothing⟩ | ⟨i, e, found, -, -⟩
        · simp [entriesOf, nothing]
        · have less := ascending.first_lt _ (List.mem_of_getElem? found)
          exact absurd less (String.lt_irrefl _)
    · rw [entriesOf, if_neg same, lookup_cons_eq_ite, if_neg (Ne.symm same)]
      rcases later with ⟨none, nothing⟩ | ⟨i, e, found, looked, single⟩
      · exact Or.inl ⟨none, nothing⟩
      · apply Or.inr
        refine ⟨i + 1, e, found, looked, ?_⟩
        rw [single, Nat.add_assoc, Nat.add_comm 1 i]

end Json

namespace Reading

variable {δ α β : Type} {d d' : List (String × δ)}

/-- Two readings with one outcome: one value, or one fault under one name, wherever that stands. -/
inductive Alike (d d' : List (String × δ)) : Reading α → Reading α → Prop
  | value (a : α) : Alike d d' (.value a) (.value a)
  | fault {p p' : Nat} {name : String} {error : ReadError}
      (found : d[p]?.map Prod.fst = some name) (found' : d'[p']?.map Prod.fst = some name) :
      Alike d d' (.fault ⟨p, error⟩) (.fault ⟨p', error⟩)

theorem Alike.toExcept_eq {r r' : Reading α} (alike : Alike d d' r r') :
    r.toExcept = r'.toExcept := by
  cases alike <;> rfl

theorem Alike.map {r r' : Reading α} (f : α → β) (alike : Alike d d' r r') :
    Alike d d' (f <$> r) (f <$> r') := by
  cases alike with
  | value a => exact .value (f a)
  | fault found found' => exact .fault found found'

/-- The same fault is reported of two, since their names stand in one order. -/
theorem Alike.seq (ascending : Json.Ascending d) (ascending' : Json.Ascending d')
    {f f' : Reading (α → β)} {r r' : Reading α} (left : Alike d d' f f') (right : Alike d d' r r') :
    Alike d d' (f <*> r) (f' <*> r') := by
  cases left with
  | value g =>
    cases right with
    | value a => exact .value (g a)
    | fault found found' => exact .fault found found'
  | fault first first' =>
    cases right with
    | value => exact .fault first first'
    | @fault q q' name error second second' =>
      have order := ascending.lt_iff second first
      have order' := ascending'.lt_iff second' first'
      show Alike d d' (Reading.both _ _) (Reading.both _ _)
      simp only [Reading.both, order, order']
      split
      · exact .fault second second'
      · exact .fault first first'

/-- A field with a default is read to one outcome from two objects that agree on its name. -/
theorem alike_withDefault (ascending : Json.Ascending d) (ascending' : Json.Ascending d')
    {names : List String} (agree : Json.AgreeOn names d d') (shape : String) (count index : Nat)
    (name : String) (listed : name ∈ names) (read : δ → Except ReadError α) (value : α) :
    Alike d d' (Fields.withDefault ⟨shape, count, .named d⟩ index name read value)
      (Fields.withDefault ⟨shape, count, .named d'⟩ index name read value) := by
  have same := agree name listed
  simp only [Fields.withDefault, Fields.field]
  rcases ascending.entriesOf_cases name 0 with ⟨none, nothing⟩ | ⟨p, e, found, some, single⟩
  · rcases ascending'.entriesOf_cases name 0 with ⟨-, nothing'⟩ | ⟨p', e', -, some', -⟩
    · rw [nothing, nothing']
      exact .value value
    · rw [none, some'] at same
      cases same
  · rcases ascending'.entriesOf_cases name 0 with ⟨none', -⟩ | ⟨p', e', found', some', single'⟩
    · rw [some, none'] at same
      cases same
    · rw [some, some'] at same
      cases same
      have named : d[p]?.map Prod.fst = Option.some name := by rw [found, Option.map_some]
      have named' : d'[p']?.map Prod.fst = Option.some name := by rw [found', Option.map_some]
      rw [single, single', Nat.zero_add, Nat.zero_add]
      cases outcome : read e with
      | ok a =>
        simp only [placeAt, outcome]
        exact .value a
      | error fault =>
        simp only [placeAt, outcome]
        exact .fault named named'

end Reading

end Geoflow
