import Mathlib.Data.List.Sort
import SchemeCheck.Dict
set_option autoImplicit false

namespace SchemeCheck

theorem eq_of_ascending {α : Type} {key : α → Text} {l l' : List α}
    (h : l.Pairwise fun a b => key a < key b) (h' : l'.Pairwise fun a b => key a < key b)
    (same : ∀ a, a ∈ l ↔ a ∈ l') : l = l' := by
  have nodup : ∀ {l : List α}, (l.Pairwise fun a b => key a < key b) → l.Nodup := by
    intro l ascending
    refine ascending.imp ?_
    rintro a _ lt rfl
    exact List.lt_irrefl (key a) lt
  have perm : l.Perm l' := (List.perm_ext_iff_of_nodup (nodup h) (nodup h')).2 same
  exact List.Perm.eq_of_pairwise
    (fun a b _ _ lt gt => absurd (List.lt_trans lt gt) (List.lt_irrefl (key a))) h h' perm

namespace Dict
variable {α : Type}

theorem mem_iff_lookup {l : List (Text × α)} (h : l.Pairwise (fun a b => a.1 < b.1)) (k : Text)
    (v : α) : (k, v) ∈ l ↔ l.lookup k = some v := by
  induction l with
  | nil => simp
  | cons head rest ih =>
    obtain ⟨k', v'⟩ := head
    obtain ⟨below, tail⟩ := List.pairwise_cons.1 h
    rw [List.mem_cons, lookup_entry]
    by_cases same : k = k'
    · subst same
      have absent : (k, v) ∉ rest := fun m => List.lt_irrefl k (below _ m)
      simp [absent, eq_comm]
    · simp [same, ih tail]

theorem mem_entries_iff (d : Dict α) (k : Text) (v : α) : (k, v) ∈ d.entries ↔ d.get? k = some v :=
  mem_iff_lookup d.ascending k v

theorem contains_iff (d : Dict α) (k : Text) : d.contains k = true ↔ ∃ v, d.get? k = some v :=
  Option.isSome_iff_exists

theorem mem_keys_iff (d : Dict α) (k : Text) : k ∈ d.keys ↔ d.contains k = true := by
  rw [keys, contains_iff, List.mem_map]
  constructor
  · rintro ⟨⟨k, v⟩, entry, rfl⟩
    exact ⟨v, (mem_entries_iff d k v).1 entry⟩
  · rintro ⟨v, found⟩
    exact ⟨(k, v), (mem_entries_iff d k v).2 found, rfl⟩

theorem entries_eq_nil_iff (d : Dict α) : d.entries = [] ↔ ∀ k, ¬ d.contains k = true := by
  rw [List.eq_nil_iff_forall_not_mem]
  simp only [Prod.forall, mem_entries_iff, contains_iff, not_exists]

theorem ext_get? {d d' : Dict α} (h : ∀ k, d.get? k = d'.get? k) : d = d' := by
  have entries : d.entries = d'.entries :=
    eq_of_ascending d.ascending d'.ascending fun ⟨k, v⟩ => by
      rw [mem_entries_iff, mem_entries_iff, h]
  cases d
  cases d'
  congr

theorem get?_foldl_insert_reverse (l : List (Text × α)) (d : Dict α) (k : Text) :
    (l.foldl (fun d e => d.insert e.1 e.2) d).get? k = (l.reverse.lookup k).or (d.get? k) := by
  induction l generalizing d with
  | nil => simp
  | cons e l ih =>
    rw [List.foldl_cons, ih, get?_insert, List.reverse_cons, List.lookup_append, lookup_entry]
    split <;> simp

theorem get?_ofList (l : List (Text × α)) (k : Text) : (ofList l).get? k = l.reverse.lookup k := by
  rw [ofList, get?_foldl_insert_reverse, get?_empty, Option.or_none]

theorem mem_values_iff (d : Dict α) (v : α) : v ∈ d.values ↔ ∃ k, d.get? k = some v := by
  simp [values, ← mem_entries_iff]

end Dict

namespace TextSet

theorem mem_toList_iff (s : TextSet) (t : Text) : t ∈ s.toList ↔ Dict.get? s t = some () := by
  rw [← Dict.mem_entries_iff, toList, Dict.keys, List.mem_map]
  exact ⟨fun ⟨_, h, same⟩ => same ▸ h, fun h => ⟨_, h, rfl⟩⟩

theorem ascending_toList (s : TextSet) : s.toList.Pairwise (· < ·) := List.pairwise_map.2 s.ascending

theorem ext_toList {s s' : TextSet} (h : ∀ t, t ∈ s.toList ↔ t ∈ s'.toList) : s = s' :=
  Dict.ext_get? fun t => Option.ext fun () => by
    rw [← mem_toList_iff, ← mem_toList_iff, h]

@[simp] theorem not_mem_toList_empty (t : Text) : t ∉ toList Dict.empty := by simp [mem_toList_iff]

theorem mem_toList_insert (s : TextSet) (u t : Text) :
    t ∈ (s.insert u).toList ↔ t = u ∨ t ∈ s.toList := by
  rw [mem_toList_iff, mem_toList_iff, insert, Dict.get?_insert]
  split <;> simp [*]

theorem mem_toList_insertAll (ts : List Text) (s : TextSet) (t : Text) :
    t ∈ (s.insertAll ts).toList ↔ t ∈ ts ∨ t ∈ s.toList := by
  induction ts generalizing s with
  | nil => simp [insertAll]
  | cons u ts ih =>
    have step : s.insertAll (u :: ts) = (s.insert u).insertAll ts := rfl
    rw [step, ih, mem_toList_insert, List.mem_cons]
    tauto

theorem mem_toList_ofList (ts : List Text) (t : Text) : t ∈ (ofList ts).toList ↔ t ∈ ts := by
  rw [ofList, mem_toList_insertAll]
  simp

end TextSet
end SchemeCheck
