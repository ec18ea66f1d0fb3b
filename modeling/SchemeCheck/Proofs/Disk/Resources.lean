import SchemeCheck.Disk.Store
import SchemeCheck.Proofs.Disk.Tree
set_option autoImplicit false

namespace SchemeCheck

namespace Resource

def ofNames (names : List Text) : Text := packagesRoot ++ ['/'].intercalate names

theorem ofNames_singleton (name : Text) : ofNames [name] = packagesRoot ++ name := by
  simp [ofNames]

theorem package?_ofNames {name : Text} (h : Disk.IsName name) (names : List Text) :
    package? (ofNames (name :: names)) = some name := by
  have plain := Text.bne_of_not_mem h.noSlash
  have first : (['/'].intercalate (name :: names)).takeWhile (· != '/') = name := by
    cases names with
    | nil =>
      rw [List.intercalate_singleton]
      exact List.takeWhile_eq_self_iff.2 plain
    | cons next names =>
      rw [List.intercalate_cons_cons, List.append_assoc, List.singleton_append]
      exact (Text.span_append plain (by simp)).1
  simp [package?, ofNames, first, h.ne_nil]

end Resource

namespace Store
variable {s : Store} {root package r : Text}

theorem filePath_ofNames {names : List Text} (h : ∀ n ∈ names, Disk.IsName n) :
    s.filePath (Resource.ofNames names) = names.foldl Path.join s.packages := by
  have parts : Text.fields (· == '/') (['/'].intercalate names) = names :=
    Text.fields_intercalate fun n hn => ⟨(h n hn).ne_nil, (h n hn).noSlash⟩
  rw [filePath, Resource.ofNames, Text.after?_append, Option.getD_some, parts]

theorem locate_filePath (tree : s.disk.IsTree) (hroot : s.disk.locate s.folder s.packages = .ok root)
    {names : List Text} (h : ∀ n ∈ names, Disk.IsName n)
    (there : s.disk.isPresent (Disk.descend root names) = true) :
    s.disk.locate s.folder (s.filePath (Resource.ofNames names)) =
      .ok (Disk.descend root names) := by
  rw [filePath_ofNames h]
  exact tree.locate_join_names h hroot there

theorem mem_resources_iff_child (hroot : s.disk.locate s.folder s.packages = .ok root) :
    r ∈ s.resources ↔
      ∃ rel, s.disk.isFile (Disk.child root rel) = true ∧ r = Resource.packagesRoot ++ rel := by
  simp only [resources, hroot, List.mem_map, List.mem_filterMap, Text.after?_eq_some_iff,
    Dict.mem_keys_iff, Disk.isFile, Disk.child]
  constructor
  · rintro ⟨rel, ⟨location, isFile, rfl⟩, rfl⟩
    exact ⟨rel, by simpa using isFile, rfl⟩
  · rintro ⟨rel, isFile, rfl⟩
    exact ⟨rel, ⟨_, isFile, by simp⟩, rfl⟩

/-- The resources are the files below the packages folder, by their names from there. -/
theorem mem_resources_iff (tree : s.disk.IsTree)
    (hroot : s.disk.locate s.folder s.packages = .ok root) :
    r ∈ s.resources ↔ ∃ names, names ≠ [] ∧ (∀ n ∈ names, Disk.IsName n) ∧
      s.disk.isFile (Disk.descend root names) = true ∧ r = Resource.ofNames names := by
  rw [mem_resources_iff_child hroot]
  constructor
  · rintro ⟨rel, isFile, rfl⟩
    obtain ⟨rootNames, hr, rfl⟩ := tree.named root (tree.isPresent_of_locate hroot)
    obtain ⟨names, h, place⟩ := tree.named _ (Disk.isPresent_iff.2 (.inl isFile))
    have below : Disk.IsUnder (Disk.descend [] rootNames) (Disk.descend [] names) :=
      .inr ⟨rel, place.symm⟩
    obtain ⟨names, rfl⟩ := (Disk.isUnder_descend (fun n hn => (hr n hn).noSlash)
      fun n hn => (h n hn).noSlash).1 below
    rw [Disk.descend_append] at place
    have ne : names ≠ [] := by
      rintro rfl
      have := congrArg List.length place
      simp [Disk.child] at this
    rw [place] at isFile
    rw [Disk.descend_eq_child _ ne] at place
    have rel_eq : rel = ['/'].intercalate names := by simpa [Disk.child] using place
    exact ⟨names, ne, fun n hn => h n (List.mem_append_right _ hn), isFile, by rw [rel_eq]; rfl⟩
  · rintro ⟨names, ne, h, isFile, rfl⟩
    exact ⟨_, Disk.descend_eq_child root ne ▸ isFile, rfl⟩

theorem exists_names (tree : s.disk.IsTree) (hr : r ∈ s.resources) :
    ∃ rootNames name names, s.disk.locate s.folder s.packages = .ok (Disk.descend [] rootNames) ∧
      (∀ n ∈ rootNames ++ name :: names, Disk.IsName n) ∧
      s.disk.isPresent (Disk.descend [] (rootNames ++ name :: names)) = true ∧
      r = Resource.ofNames (name :: names) := by
  cases hroot : s.disk.locate s.folder s.packages with
  | error fault => simp [resources, hroot] at hr
  | ok root =>
    obtain ⟨rootNames, hnames, rfl⟩ := tree.named root (tree.isPresent_of_locate hroot)
    obtain ⟨names, ne, h, isFile, rfl⟩ := (mem_resources_iff tree hroot).1 hr
    obtain ⟨name, names, rfl⟩ := List.exists_cons_of_ne_nil ne
    refine ⟨rootNames, name, names, rfl, fun n hn => ?_, ?_, rfl⟩
    · exact (List.mem_append.1 hn).elim (hnames n) (h n)
    · rw [Disk.descend_append]
      exact Disk.isPresent_iff.2 (.inl isFile)

theorem isName_of_package? (tree : s.disk.IsTree) (hr : r ∈ s.resources)
    (h : Resource.package? r = some package) : Disk.IsName package := by
  obtain ⟨rootNames, name, names, -, hnames, -, rfl⟩ := exists_names tree hr
  have isName := hnames name (by simp)
  rw [Resource.package?_ofNames isName] at h
  exact Option.some.inj h ▸ isName

theorem exists_place (tree : s.disk.IsTree) (hr : r ∈ s.resources) :
    ∃ rootNames names, s.disk.locate s.folder s.packages = .ok (Disk.descend [] rootNames) ∧
      (∀ n ∈ rootNames ++ names, Disk.IsName n) ∧
      s.disk.locate s.folder (s.filePath r) = .ok (Disk.descend [] (rootNames ++ names)) ∧
      r = Resource.ofNames names := by
  obtain ⟨rootNames, name, names, hroot, hnames, there, rfl⟩ := exists_names tree hr
  refine ⟨rootNames, name :: names, hroot, hnames, ?_, rfl⟩
  rw [Disk.descend_append] at there ⊢
  exact locate_filePath tree hroot (fun n hn => hnames n (List.mem_append_right _ hn)) there

theorem eq_of_locate_filePath (tree : s.disk.IsTree) {r' place : Text} (hr : r ∈ s.resources)
    (hr' : r' ∈ s.resources) (leads : s.disk.locate s.folder (s.filePath r) = .ok place)
    (leads' : s.disk.locate s.folder (s.filePath r') = .ok place) : r = r' := by
  obtain ⟨rootNames, names, hroot, h, path, rfl⟩ := exists_place tree hr
  obtain ⟨rootNames', names', hroot', h', path', rfl⟩ := exists_place tree hr'
  have free : ∀ n ∈ rootNames ++ names, '/' ∉ n := fun n hn => (h n hn).noSlash
  have free' : ∀ n ∈ rootNames' ++ names', '/' ∉ n := fun n hn => (h' n hn).noSlash
  have sameRoot : rootNames = rootNames' :=
    Disk.descend_inj (fun n hn => free n (List.mem_append_left _ hn))
      (fun n hn => free' n (List.mem_append_left _ hn)) (Except.ok.inj (hroot.symm.trans hroot'))
  have same : rootNames ++ names = rootNames' ++ names' :=
    Disk.descend_inj free free'
      (Except.ok.inj ((path.symm.trans leads).trans (leads'.symm.trans path')))
  rw [sameRoot] at same
  rw [List.append_cancel_left same]

end Store
end SchemeCheck
