import Mathlib.Data.List.Infix
import SchemeCheck.Disk.Basic
import SchemeCheck.Proofs.Text.Cut
set_option autoImplicit false

/-!
Locations as names. A location is cut into the names on the way to it, so two are the same where their
names are, and one lies below another where its names go on from those of the other. The components of
its path are these names.
-/

namespace SchemeCheck

namespace Disk

structure IsName (name : Text) : Prop where
  ne_nil : name ≠ []
  ne_dot : name ≠ ['.']
  ne_dots : name ≠ ['.', '.']
  noSlash : '/' ∉ name
  noNul : '\x00' ∉ name
  short : Text.byteLength name ≤ maxNameBytes

instance (name : Text) : Decidable (IsName name) :=
  decidable_of_iff (name ≠ [] ∧ name ≠ ['.'] ∧ name ≠ ['.', '.'] ∧ '/' ∉ name ∧ '\x00' ∉ name ∧
      Text.byteLength name ≤ maxNameBytes)
    ⟨fun ⟨h₁, h₂, h₃, h₄, h₅, h₆⟩ => ⟨h₁, h₂, h₃, h₄, h₅, h₆⟩,
      fun ⟨h₁, h₂, h₃, h₄, h₅, h₆⟩ => ⟨h₁, h₂, h₃, h₄, h₅, h₆⟩⟩

def descend (location : Text) (names : List Text) : Text := names.foldl child location

def IsUnder (outer location : Text) : Prop :=
  location = outer ∨ ∃ rest, location = child outer rest

@[simp] theorem descend_nil (location : Text) : descend location [] = location := rfl

@[simp] theorem descend_cons (location name : Text) (names : List Text) :
    descend location (name :: names) = descend (child location name) names := rfl

theorem descend_append (location : Text) (names names' : List Text) :
    descend location (names ++ names') = descend (descend location names) names' :=
  List.foldl_append

theorem descend_concat (location : Text) (names : List Text) (name : Text) :
    descend location (names ++ [name]) = child (descend location names) name :=
  descend_append location names [name]

theorem child_descend (location name : Text) (names : List Text) :
    descend (child location name) names = child location (descend name names) := by
  induction names generalizing name with
  | nil => rfl
  | cons next names ih =>
    have assoc : child (child location name) next = child location (child name next) := by
      simp [child]
    rw [descend_cons, assoc, ih, descend_cons]

theorem descend_eq_child (location : Text) {names : List Text} (ne : names ≠ []) :
    descend location names = child location (['/'].intercalate names) := by
  induction names generalizing location with
  | nil => exact absurd rfl ne
  | cons name names ih =>
    cases names with
    | nil => simp
    | cons next names =>
      rw [descend_cons, ih _ (List.cons_ne_nil _ _), List.intercalate_cons_cons]
      simp [child]

theorem child_ne_nil (folder name : Text) : child folder name ≠ [] := by simp [child]

theorem descend_ne_nil (location : Text) {names : List Text} (ne : names ≠ []) :
    descend location names ≠ [] := by
  rw [descend_eq_child location ne]
  exact child_ne_nil _ _

theorem not_mem_descend {c : Char} (slash : c ≠ '/') {location : Text} (outside : c ∉ location)
    {names : List Text} (h : ∀ n ∈ names, c ∉ n) : c ∉ descend location names := by
  induction names generalizing location with
  | nil => exact outside
  | cons name names ih =>
    refine ih ?_ fun n hn => h n (List.mem_cons_of_mem _ hn)
    simp [child, outside, slash, h name List.mem_cons_self]

theorem split_descend (location : Text) {names : List Text} (h : ∀ n ∈ names, '/' ∉ n) :
    Text.split (· == '/') (descend location names) = Text.split (· == '/') location ++ names := by
  induction names generalizing location with
  | nil => simp
  | cons name names ih =>
    rw [descend_cons, ih _ fun n hn => h n (List.mem_cons_of_mem _ hn), child, Text.split_append_cons,
      Text.split_of_not_mem (h name List.mem_cons_self), List.append_assoc, List.singleton_append]

theorem descend_inj {location : Text} {names names' : List Text} (h : ∀ n ∈ names, '/' ∉ n)
    (h' : ∀ n ∈ names', '/' ∉ n) (same : descend location names = descend location names') :
    names = names' := by
  have cut := split_descend location h
  rw [same, split_descend location h'] at cut
  exact (List.append_cancel_left cut).symm

theorem isUnder_descend {names names' : List Text} (h : ∀ n ∈ names, '/' ∉ n)
    (h' : ∀ n ∈ names', '/' ∉ n) : IsUnder (descend [] names) (descend [] names') ↔ names <+: names' := by
  constructor
  · rintro (same | ⟨rest, hrest⟩)
    · exact descend_inj h' h same ▸ List.prefix_refl _
    · have cut := split_descend [] h'
      rw [hrest, child, Text.split_append_cons, split_descend [] h, List.append_assoc] at cut
      exact ⟨_, List.append_cancel_left cut⟩
  · rintro ⟨rest, rfl⟩
    rw [descend_append]
    cases rest with
    | nil => exact .inl rfl
    | cons name rest => exact .inr ⟨_, descend_eq_child _ (List.cons_ne_nil _ _)⟩

theorem parent_child {name : Text} (h : '/' ∉ name) (folder : Text) :
    parent (child folder name) = folder := by
  have plain : ∀ c ∈ name.reverse, (c != '/') = true :=
    Text.bne_of_not_mem (mt List.mem_reverse.1 h)
  simp [parent, child, List.dropWhile_append_of_pos plain]

theorem folder_eq_of_child_eq {folder folder' name name' : Text} (h : '/' ∉ name) (h' : '/' ∉ name')
    (same : child folder name = child folder' name') : folder = folder' := by
  rw [← parent_child h folder, same, parent_child h']

theorem ancestry_descend {names : List Text} (h : ∀ n ∈ names, '/' ∉ n) :
    ancestry (descend [] names) =
      names.foldl (fun folders name => child (folders.headD []) name :: folders) [] := by
  rw [ancestry, split_descend [] h]
  rfl

theorem headD_ancestry {names : List Text} (h : ∀ n ∈ names, '/' ∉ n) :
    (ancestry (descend [] names)).headD [] = descend [] names := by
  rw [ancestry_descend h]
  clear h
  induction names using List.reverseRecOn with
  | nil => rfl
  | append_singleton names name ih =>
    rw [List.foldl_append, List.foldl_cons, List.foldl_nil, List.headD_cons, ih, descend_concat]

theorem ancestry_concat {names : List Text} {name : Text} (h : ∀ n ∈ names ++ [name], '/' ∉ n) :
    ancestry (descend [] (names ++ [name])) =
      descend [] (names ++ [name]) :: ancestry (descend [] names) := by
  have free : ∀ n ∈ names, '/' ∉ n := fun n hn => h n (List.mem_append_left _ hn)
  rw [ancestry_descend h, List.foldl_append, List.foldl_cons, List.foldl_nil, ← ancestry_descend free,
    headD_ancestry free, descend_concat]

theorem mem_ancestry_descend {names : List Text} (h : ∀ n ∈ names, '/' ∉ n) (location : Text) :
    location ∈ ancestry (descend [] names) ↔
      ∃ before, before ≠ [] ∧ before <+: names ∧ location = descend [] before := by
  induction names using List.reverseRecOn with
  | nil => simp [ancestry, Text.split]
  | append_singleton names name ih =>
    rw [ancestry_concat h, List.mem_cons, ih fun n hn => h n (List.mem_append_left _ hn)]
    constructor
    · rintro (rfl | ⟨before, ne, start, rfl⟩)
      · exact ⟨_, by simp, List.prefix_refl _, rfl⟩
      · exact ⟨before, ne, start.trans (List.prefix_append _ _), rfl⟩
    · rintro ⟨before, ne, start, rfl⟩
      rcases List.prefix_concat_iff.1 start with rfl | start
      · exact .inl rfl
      · exact .inr ⟨before, ne, start, rfl⟩

theorem components_pathOf {names : List Text} (h : ∀ n ∈ names, IsName n) :
    Path.components (pathOf (descend [] names)) = .root :: names.map .name := by
  have named : names.filterMap (Path.component? false) = names.map .name := by
    rw [← List.filterMap_eq_map]
    refine List.filterMap_congr fun n hn => ?_
    simp [Path.component?, (h n hn).ne_nil, (h n hn).ne_dot, (h n hn).ne_dots]
  cases names with
  | nil => rfl
  | cons name names =>
    have cut : Text.split (· == '/') (descend [] (name :: names)) = [] :: name :: names :=
      split_descend [] fun n hn => (h n hn).noSlash
    rw [pathOf, if_neg (descend_ne_nil [] (List.cons_ne_nil _ _)), Path.components, cut, ← named]
    simp

end Disk

namespace Path

theorem isWithin_iff (outer path : Text) :
    isWithin outer path = true ↔ components outer <+: components path := by
  rw [isWithin, relativeTo?, Option.isSome_iff_exists]
  simp only [List.isPrefixOf?_eq_some_iff_append_eq]
  rfl

theorem join_cases {path name : Text} (ne : path ≠ []) (noSlash : '/' ∉ name) :
    (∃ front, path = front ++ ['/'] ∧ join path name = front ++ '/' :: name) ∨
      join path name = path ++ '/' :: name := by
  have relative : name.head? ≠ some '/' := fun first => noSlash (List.mem_of_mem_head? first)
  rw [join, if_neg relative, if_neg ne]
  split
  · next last =>
    obtain ⟨front, rfl⟩ := List.getLast?_eq_some_iff.1 last
    exact .inl ⟨front, rfl, by simp⟩
  · exact .inr rfl

theorem exists_join {path name : Text} (ne : path ≠ []) (noSlash : '/' ∉ name) :
    ∃ rest, join path name = path ++ rest ∧ ∀ c ∈ rest, c = '/' ∨ c ∈ name := by
  rcases join_cases ne noSlash with ⟨front, rfl, joined⟩ | joined
  · exact ⟨name, by simp [joined], fun c hc => .inr hc⟩
  · exact ⟨'/' :: name, joined, fun c hc => List.mem_cons.1 hc⟩

/-- A joined path has the pieces of both, without the empty one where the first ends in a slash. -/
theorem split_join {path name : Text} (ne : path ≠ []) (noSlash : '/' ∉ name) :
    ∃ pieces, Text.split (· == '/') (join path name) = pieces ++ [name] ∧
      (Text.split (· == '/') path = pieces ∨ Text.split (· == '/') path = pieces ++ [[]]) := by
  rcases join_cases ne noSlash with ⟨front, rfl, joined⟩ | joined
  · refine ⟨Text.split (· == '/') front, ?_, .inr (Text.split_append_cons '/' front [])⟩
    rw [joined, Text.split_append_cons, Text.split_of_not_mem noSlash]
  · refine ⟨Text.split (· == '/') path, ?_, .inl rfl⟩
    rw [joined, Text.split_append_cons, Text.split_of_not_mem noSlash]

end Path

namespace Disk

theorem components_pathOf_inj {names names' : List Text} (h : ∀ n ∈ names, IsName n)
    (h' : ∀ n ∈ names', IsName n)
    (same : Path.components (pathOf (descend [] names)) =
      Path.components (pathOf (descend [] names'))) : names = names' := by
  have injective : Function.Injective Path.Component.name := fun _ _ same => by cases same; rfl
  rw [components_pathOf h, components_pathOf h'] at same
  exact injective.list_map (List.tail_eq_of_cons_eq same)

theorem isWithin_pathOf {names names' : List Text} (h : ∀ n ∈ names, IsName n)
    (h' : ∀ n ∈ names', IsName n) :
    Path.isWithin (pathOf (descend [] names)) (pathOf (descend [] names')) = true ↔
      IsUnder (descend [] names) (descend [] names') := by
  have injective : Function.Injective Path.Component.name := fun _ _ same => by cases same; rfl
  rw [Path.isWithin_iff, components_pathOf h, components_pathOf h', List.cons_prefix_cons,
    List.prefix_map_iff_of_injective injective,
    isUnder_descend (fun n hn => (h n hn).noSlash) fun n hn => (h' n hn).noSlash]
  simp

end Disk
end SchemeCheck
