import SchemeCheck.Text.Basic
set_option autoImplicit false

/-!
Finite maps from texts, listed in ascending order of their keys, and finite sets of texts. The
order is by code point, so two maps with the same bindings are equal.
-/

namespace SchemeCheck

theorem Text.lt_of_not_lt {a b : Text} (h : ¬ a < b) (ne : a ≠ b) : b < a :=
  (List.le_iff_lt_or_eq.1 (List.not_lt.1 h)).elim id fun e => absurd e.symm ne

structure Dict (α : Type) where
  entries : List (Text × α)
  ascending : entries.Pairwise (fun a b => a.1 < b.1)
  deriving DecidableEq

namespace Dict
variable {α β : Type}

def insertEntry (k : Text) (v : α) : List (Text × α) → List (Text × α)
  | [] => [(k, v)]
  | (k', v') :: rest =>
    if k < k' then (k, v) :: (k', v') :: rest
    else if k = k' then (k, v) :: rest
    else (k', v') :: insertEntry k v rest

theorem mem_insertEntry {k : Text} {v : α} {e : Text × α} {l : List (Text × α)}
    (h : e ∈ insertEntry k v l) : e = (k, v) ∨ e ∈ l := by
  induction l with
  | nil => simpa [insertEntry] using h
  | cons head rest ih =>
    obtain ⟨k', v'⟩ := head
    rw [insertEntry] at h
    split at h
    · simpa using h
    · split at h
      · exact (List.mem_cons.1 h).imp_right (List.mem_cons_of_mem _)
      · rcases List.mem_cons.1 h with h | h
        · exact .inr (h ▸ List.mem_cons_self)
        · exact (ih h).imp_right (List.mem_cons_of_mem _)

theorem insertEntry_ascending (k : Text) (v : α) {l : List (Text × α)}
    (h : l.Pairwise (fun a b => a.1 < b.1)) :
    (insertEntry k v l).Pairwise (fun a b => a.1 < b.1) := by
  induction l with
  | nil => simp [insertEntry]
  | cons head rest ih =>
    obtain ⟨k', v'⟩ := head
    obtain ⟨below, tail⟩ := List.pairwise_cons.1 h
    rw [insertEntry]
    split
    · next lt =>
      refine List.pairwise_cons.2 ⟨fun e he => ?_, h⟩
      rcases List.mem_cons.1 he with rfl | he
      · exact lt
      · exact List.lt_trans lt (below e he)
    · split
      · next eq => exact List.pairwise_cons.2 ⟨fun e he => eq ▸ below e he, tail⟩
      · next nlt ne =>
        refine List.pairwise_cons.2 ⟨fun e he => ?_, ih tail⟩
        rcases mem_insertEntry he with rfl | he
        · exact Text.lt_of_not_lt nlt ne
        · exact below e he

def empty : Dict α := ⟨[], List.Pairwise.nil⟩

instance : Inhabited (Dict α) := ⟨empty⟩

def insert (d : Dict α) (k : Text) (v : α) : Dict α :=
  ⟨insertEntry k v d.entries, insertEntry_ascending k v d.ascending⟩

def get? (d : Dict α) (k : Text) : Option α := d.entries.lookup k

def contains (d : Dict α) (k : Text) : Bool := (d.get? k).isSome

def erase (d : Dict α) (k : Text) : Dict α :=
  ⟨d.entries.filter (fun e => e.1 ≠ k), d.ascending.filter _⟩

def mapValues (f : α → β) (d : Dict α) : Dict β :=
  ⟨d.entries.map fun e => (e.1, f e.2), List.pairwise_map.2 d.ascending⟩

def keys (d : Dict α) : List Text := d.entries.map (·.1)

def values (d : Dict α) : List α := d.entries.map (·.2)

/-- All bindings of both maps; those of `upper` win. -/
def extend (d upper : Dict α) : Dict α := upper.entries.foldl (fun d e => d.insert e.1 e.2) d

/-- The bindings of a list; of two with one key the later wins. -/
def ofList (l : List (Text × α)) : Dict α := l.foldl (fun d e => d.insert e.1 e.2) empty

@[simp] theorem get?_empty (k : Text) : (empty : Dict α).get? k = none := rfl

theorem lookup_entry (j k : Text) (v : α) (l : List (Text × α)) :
    List.lookup j ((k, v) :: l) = if j = k then some v else l.lookup j := by
  by_cases h : j = k
  · simp [h]
  · rw [List.lookup_cons, beq_false_of_ne h, if_neg h]

theorem lookup_insertEntry (k j : Text) (v : α) (l : List (Text × α)) :
    (insertEntry k v l).lookup j = if j = k then some v else l.lookup j := by
  induction l with
  | nil => simp [insertEntry, lookup_entry]
  | cons head rest ih =>
    obtain ⟨k', v'⟩ := head
    rw [insertEntry]
    split
    · simp [lookup_entry]
    · split
      · next eq => subst eq; simp only [lookup_entry]; split <;> rfl
      · next ne =>
        simp only [lookup_entry, ih]
        by_cases h : j = k'
        · subst h; simp [Ne.symm ne]
        · simp [h]

theorem get?_insert (d : Dict α) (k j : Text) (v : α) :
    (d.insert k v).get? j = if j = k then some v else d.get? j := lookup_insertEntry k j v d.entries

theorem lookup_filter_ne (k j : Text) (l : List (Text × α)) :
    (l.filter (fun e => e.1 ≠ k)).lookup j = if j = k then none else l.lookup j := by
  induction l with
  | nil => simp
  | cons head rest ih =>
    obtain ⟨k', v'⟩ := head
    rw [List.filter_cons]
    by_cases hk : k' = k
    · rw [if_neg (by simp [hk]), ih, hk, lookup_entry]
      split <;> rfl
    · rw [if_pos (by simp [hk]), lookup_entry, lookup_entry, ih]
      by_cases h : j = k'
      · simp [h, hk]
      · simp [h]

theorem get?_erase (d : Dict α) (k j : Text) :
    (d.erase k).get? j = if j = k then none else d.get? j := lookup_filter_ne k j d.entries

theorem get?_mapValues (f : α → β) (d : Dict α) (k : Text) :
    (d.mapValues f).get? k = (d.get? k).map f := by
  simp only [get?, mapValues]
  induction d.entries with
  | nil => simp
  | cons head rest ih =>
    obtain ⟨k', v'⟩ := head
    simp only [List.map_cons, lookup_entry, ih]
    split <;> rfl

theorem get?_foldl_insert {l : List (Text × α)} (h : l.Pairwise (fun a b => a.1 < b.1))
    (d : Dict α) (k : Text) :
    (l.foldl (fun d e => d.insert e.1 e.2) d).get? k = (l.lookup k).or (d.get? k) := by
  induction l generalizing d with
  | nil => simp
  | cons head rest ih =>
    obtain ⟨k', v'⟩ := head
    obtain ⟨below, tail⟩ := List.pairwise_cons.1 h
    rw [List.foldl_cons, ih tail, get?_insert, lookup_entry]
    by_cases hk : k = k'
    · subst hk
      have absent : rest.lookup k = none :=
        List.lookup_eq_none_iff.2 fun e he => by
          simpa using fun same : k = e.1 => List.lt_irrefl k (same ▸ below e he)
      simp [absent]
    · simp [hk]

theorem get?_extend (d upper : Dict α) (k : Text) :
    (d.extend upper).get? k = (upper.get? k).or (d.get? k) :=
  get?_foldl_insert upper.ascending d k

end Dict

abbrev TextSet := Dict Unit

namespace TextSet

def insert (s : TextSet) (t : Text) : TextSet := Dict.insert s t ()

def insertAll (s : TextSet) (ts : List Text) : TextSet := ts.foldl insert s

def ofList (ts : List Text) : TextSet := insertAll Dict.empty ts

def toList (s : TextSet) : List Text := s.keys

def size (s : TextSet) : Nat := s.entries.length

end TextSet

end SchemeCheck
