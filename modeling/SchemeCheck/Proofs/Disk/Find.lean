import SchemeCheck.Proofs.Disk.Resources
import SchemeCheck.Proofs.Text.Order
set_option autoImplicit false

namespace SchemeCheck

theorem Path.baseName_join {name : Text} (noSlash : '/' ∉ name) (path : Text) :
    Resource.baseName (join path name) = name := by
  by_cases ne : path = []
  · have relative : name.head? ≠ some '/' := fun first => noSlash (List.mem_of_mem_head? first)
    rw [join, if_neg relative, if_pos ne]
    exact Text.afterLast_append_all (fun c hc => by simpa using ne_of_mem_of_not_mem hc noSlash) []
  · rcases join_cases ne noSlash with ⟨front, -, joined⟩ | joined
    all_goals rw [joined]; exact Text.afterLast_append_sep noSlash _

namespace Resource

theorem ofNames_eq_descend {names : List Text} (ne : names ≠ []) :
    ofNames names = Disk.descend "Packages".toList names := by
  rw [Disk.descend_eq_child _ ne]
  rfl

theorem baseName_ofNames {name : Text} (h : '/' ∉ name) (names : List Text) :
    baseName (ofNames (names ++ [name])) = name := by
  rw [ofNames_eq_descend (by simp), Disk.descend_concat]
  exact Text.afterLast_append_sep h _

end Resource

namespace Store
variable {s : Store} {root path place r : Text}

theorem resources_ascending (s : Store) : s.resources.Pairwise (· < ·) := by
  rw [resources]
  cases s.disk.locate s.folder s.packages with
  | error fault => exact .nil
  | ok root =>
    have keys : s.disk.files.keys.Pairwise (· < ·) := List.pairwise_map.2 s.disk.files.ascending
    -- Both what is cut off and what is put before is the same for all files.
    refine List.Pairwise.map _ (fun a b lt => (Text.append_lt_append_iff _ a b).2 lt) ?_
    refine keys.filterMap _ fun a a' lt b hb b' hb' => ?_
    rw [Text.after?_eq_some_iff.1 hb, Text.after?_eq_some_iff.1 hb'] at lt
    exact (Text.append_lt_append_iff _ b b').1 lt

theorem canonical_of_locate (leads : s.disk.locate s.folder path = .ok place) :
    s.disk.canonical s.folder path = Disk.pathOf place := by
  rw [Disk.canonical, leads]

theorem resourceOf?_of_locate {rootNames names : List Text}
    (hroot : s.disk.locate s.folder s.packages = .ok (Disk.descend [] rootNames))
    (h : ∀ n ∈ rootNames ++ names, Disk.IsName n)
    (leads : s.disk.locate s.folder path = .ok (Disk.descend [] (rootNames ++ names))) :
    s.resourceOf? path = if names = [] then none else some (Resource.ofNames names) := by
  have below : Path.relativeTo? (Disk.pathOf (Disk.descend [] rootNames))
      (Disk.pathOf (Disk.descend [] (rootNames ++ names))) = some (names.map .name) := by
    rw [Path.relativeTo?, Disk.components_pathOf fun n hn => h n (List.mem_append_left _ hn),
      Disk.components_pathOf h, List.isPrefixOf?_eq_some_iff_append_eq]
    simp
  have named : (names.map Path.Component.name).filterMap Path.Component.name? = names := by
    rw [List.filterMap_map]
    exact List.filterMap_some
  rw [resourceOf?, canonical_of_locate hroot, canonical_of_locate leads]
  dsimp only
  rw [below, Option.bind_some, named]
  rfl

theorem resourceOf?_of_not_isUnder (tree : s.disk.IsTree)
    (hroot : s.disk.locate s.folder s.packages = .ok root)
    (leads : s.disk.locate s.folder path = .ok place) (outside : ¬ Disk.IsUnder root place) :
    s.resourceOf? path = none := by
  obtain ⟨rootNames, h, rfl⟩ := tree.named root (tree.isPresent_of_locate hroot)
  obtain ⟨names, h', rfl⟩ := tree.named place (tree.isPresent_of_locate leads)
  have apart : Path.relativeTo? (Disk.pathOf (Disk.descend [] rootNames))
      (Disk.pathOf (Disk.descend [] names)) = none := by
    have notWithin := mt (Disk.isWithin_pathOf h h').1 outside
    rwa [Path.isWithin, Option.not_isSome_iff_eq_none] at notWithin
  rw [resourceOf?, canonical_of_locate hroot, canonical_of_locate leads]
  dsimp only
  rw [apart, Option.bind_none]

/-- A resource and the file below the packages folder that it is, with the last name of both. -/
structure FileOf (s : Store) (root r name place : Text) : Prop where
  isFile : s.disk.isFile place = true
  named : ∃ names, (∀ n ∈ names ++ [name], Disk.IsName n) ∧ place = Disk.descend root (names ++ [name]) ∧
    r = Resource.ofNames (names ++ [name])

theorem FileOf.baseName_eq {name : Text} (h : s.FileOf root r name place) :
    Resource.baseName r = name := by
  obtain ⟨-, names, hnames, -, rfl⟩ := h
  exact Resource.baseName_ofNames (hnames name (by simp)).noSlash names

theorem mem_resources_iff_fileOf (tree : s.disk.IsTree)
    (hroot : s.disk.locate s.folder s.packages = .ok root) (r : Text) :
    r ∈ s.resources ↔ ∃ name place, s.FileOf root r name place := by
  rw [mem_resources_iff tree hroot]
  constructor
  · rintro ⟨names, ne, h, isFile, rfl⟩
    obtain ⟨names, name, rfl⟩ := (List.eq_nil_or_concat' names).resolve_left ne
    exact ⟨name, _, isFile, names, h, rfl, rfl⟩
  · rintro ⟨name, place, isFile, names, h, rfl, rfl⟩
    exact ⟨_, by simp, h, isFile, rfl⟩

theorem mem_find_iff_fileOf (tree : s.disk.IsTree) (hroot : s.disk.locate s.folder s.packages = .ok root)
    (pattern r : Text) :
    r ∈ s.find pattern ↔ ∃ name place, s.FileOf root r name place ∧ Glob.isMatch pattern name = true := by
  rw [find, List.mem_filter, mem_resources_iff_fileOf tree hroot]
  constructor
  · rintro ⟨⟨name, place, file⟩, isMatch⟩
    exact ⟨name, place, file, file.baseName_eq ▸ isMatch⟩
  · rintro ⟨name, place, file, isMatch⟩
    exact ⟨⟨name, place, file⟩, file.baseName_eq.symm ▸ isMatch⟩

namespace FileOf
variable {name : Text}

theorem locate_filePath (h : s.FileOf root r name place) (tree : s.disk.IsTree)
    (hroot : s.disk.locate s.folder s.packages = .ok root) :
    s.disk.locate s.folder (s.filePath r) = .ok place := by
  obtain ⟨isFile, names, hnames, rfl, rfl⟩ := h
  exact Store.locate_filePath tree hroot hnames (Disk.isPresent_iff.2 (.inl isFile))

theorem resourceOf?_eq (h : s.FileOf root r name place) (tree : s.disk.IsTree)
    (hroot : s.disk.locate s.folder s.packages = .ok root)
    (leads : s.disk.locate s.folder path = .ok place) : s.resourceOf? path = some r := by
  obtain ⟨-, names, hnames, rfl, rfl⟩ := h
  obtain ⟨rootNames, hrootNames, rfl⟩ := tree.named root (tree.isPresent_of_locate hroot)
  rw [← Disk.descend_append] at leads
  rw [resourceOf?_of_locate hroot (List.forall_mem_append.2 ⟨hrootNames, hnames⟩) leads, if_neg (by simp)]

theorem load_eq (h : s.FileOf root r name place) (tree : s.disk.IsTree)
    (hroot : s.disk.locate s.folder s.packages = .ok root) {t : Text}
    (content : s.disk.files.get? place = some (.text t)) : s.load r = .ok t := by
  have leads := h.locate_filePath tree hroot
  obtain ⟨-, names, -, -, rfl⟩ := h
  have read : s.disk.read s.folder (s.filePath (Resource.ofNames (names ++ [name]))) = .ok t := by
    rw [Disk.read, leads]
    simp [bind, Except.bind, content]
  rw [load, Resource.ofNames, Text.startsWith_append, if_pos rfl, ← Resource.ofNames, read]

theorem baseName_filePath (h : s.FileOf root r name place) :
    Resource.baseName (s.filePath r) = name := by
  obtain ⟨-, names, hnames, -, rfl⟩ := h
  rw [filePath_ofNames hnames, List.foldl_concat, Path.baseName_join (hnames name (by simp)).noSlash]

end FileOf

theorem exists_fileOf (tree : s.disk.IsTree) (hroot : s.disk.locate s.folder s.packages = .ok root)
    {rest : Text} (isFile : s.disk.isFile (Disk.child root rest) = true) :
    ∃ r name, s.FileOf root r name (Disk.child root rest) := by
  obtain ⟨names, ne, h, -, same⟩ :=
    (mem_resources_iff tree hroot).1 ((mem_resources_iff_child hroot).2 ⟨rest, isFile, rfl⟩)
  have rest_eq : rest = ['/'].intercalate names := List.append_cancel_left same
  obtain ⟨names, name, rfl⟩ := (List.eq_nil_or_concat' names).resolve_left ne
  refine ⟨Resource.ofNames (names ++ [name]), name, isFile, names, h, ?_, rfl⟩
  rw [rest_eq, Disk.descend_eq_child root ne]

theorem exists_names_of_resourceOf? (tree : s.disk.IsTree)
    (hroot : s.disk.locate s.folder s.packages = .ok root)
    (leads : s.disk.locate s.folder path = .ok place) (hr : s.resourceOf? path = some r) :
    ∃ names, names ≠ [] ∧ (∀ n ∈ names, '/' ∉ n) ∧ place = Disk.descend root names ∧
      r = Resource.ofNames names := by
  have under : Disk.IsUnder root place := Classical.byContradiction fun outside => by
    rw [resourceOf?_of_not_isUnder tree hroot leads outside] at hr
    contradiction
  obtain ⟨rootNames, h, rfl⟩ := tree.named root (tree.isPresent_of_locate hroot)
  obtain ⟨all, h', rfl⟩ := tree.named place (tree.isPresent_of_locate leads)
  obtain ⟨names, rfl⟩ := (Disk.isUnder_descend (fun n hn => (h n hn).noSlash)
    fun n hn => (h' n hn).noSlash).1 under
  rw [resourceOf?_of_locate hroot h' leads] at hr
  split at hr
  · contradiction
  · next ne =>
    refine ⟨names, ne, fun n hn => (h' n (List.mem_append_right _ hn)).noSlash, ?_, (Option.some.inj hr).symm⟩
    rw [Disk.descend_append]

theorem place_unique (tree : s.disk.IsTree) (hroot : s.disk.locate s.folder s.packages = .ok root)
    {path' place' : Text} (leads : s.disk.locate s.folder path = .ok place)
    (leads' : s.disk.locate s.folder path' = .ok place') (hr : s.resourceOf? path = some r)
    (hr' : s.resourceOf? path' = some r) : place = place' := by
  obtain ⟨names, ne, free, rfl, rfl⟩ := exists_names_of_resourceOf? tree hroot leads hr
  obtain ⟨names', ne', free', rfl, same⟩ := exists_names_of_resourceOf? tree hroot leads' hr'
  rw [Resource.ofNames_eq_descend ne, Resource.ofNames_eq_descend ne'] at same
  rw [Disk.descend_inj free free' same]

/-- A search reads the resources off the disk in their order. A walk over the files, whatever way it
takes, finds the same: the resources that the paths with matching last names lead back to, sorted. -/
theorem find_eq_of_walk (tree : s.disk.IsTree) (hroot : s.disk.locate s.folder s.packages = .ok root)
    {paths : List Text} (walk : paths.Perm (s.resources.map s.filePath)) (pattern : Text) :
    ((paths.filter fun path => Glob.isMatch pattern (Resource.baseName path)).filterMap
      s.resourceOf?).mergeSort (fun a b => decide (¬ b < a)) = s.find pattern := by
  have matching : (s.resources.map s.filePath).filter
      (fun path => Glob.isMatch pattern (Resource.baseName path)) = (s.find pattern).map s.filePath := by
    rw [List.filter_map, find]
    refine congrArg _ (List.filter_congr fun r hr => ?_)
    obtain ⟨name, place, file⟩ := (mem_resources_iff_fileOf tree hroot r).1 hr
    rw [Function.comp_apply, file.baseName_filePath, file.baseName_eq]
  have back : ((s.find pattern).map s.filePath).filterMap s.resourceOf? = s.find pattern := by
    rw [List.filterMap_map]
    refine (List.filterMap_congr fun r hr => ?_).trans List.filterMap_some
    obtain ⟨name, place, file, -⟩ := (mem_find_iff_fileOf tree hroot pattern r).1 hr
    exact file.resourceOf?_eq tree hroot (file.locate_filePath tree hroot)
  have perm := (walk.filter fun path => Glob.isMatch pattern (Resource.baseName path)).filterMap
    s.resourceOf?
  rw [matching, back] at perm
  have ascending : (s.find pattern).Pairwise fun a b => ¬ b < a :=
    (s.resources_ascending.filter _).imp fun lt => List.lt_asymm lt
  refine ((List.mergeSort_perm _ _).trans perm).eq_of_pairwise ?_ (Text.pairwise_mergeSort _) ascending
  intro a b _ _ below above
  by_contra ne
  exact above (Text.lt_of_not_lt below (Ne.symm ne))

/-- A search finds just the files below the packages folder whose last name matches, in ascending
order of their resources; each resource and its file lead to each other, and to nothing else. -/
theorem find_files (tree : s.disk.IsTree) (hroot : s.disk.locate s.folder s.packages = .ok root) :
    (∀ pattern, (s.find pattern).Pairwise (· < ·) ∧
      ∀ r, r ∈ s.find pattern ↔ ∃ name place, s.FileOf root r name place ∧ Glob.isMatch pattern name = true) ∧
    (∀ rest, s.disk.isFile (Disk.child root rest) = true →
      ∃ r name, s.FileOf root r name (Disk.child root rest)) ∧
    (∀ r name place, s.FileOf root r name place →
      s.disk.locate s.folder (s.filePath r) = .ok place ∧ s.resourceOf? (s.filePath r) = some r ∧
      (∀ path, s.disk.locate s.folder path = .ok place → s.resourceOf? path = some r) ∧
      ∀ t, s.disk.files.get? place = some (.text t) → s.load r = .ok t) ∧
    (∀ path path' place place' r, s.disk.locate s.folder path = .ok place →
      s.disk.locate s.folder path' = .ok place' → s.resourceOf? path = some r →
      s.resourceOf? path' = some r → place = place') ∧
    ∀ path place, s.disk.locate s.folder path = .ok place → ¬ Disk.IsUnder root place →
      s.resourceOf? path = none := by
  refine ⟨fun pattern => ⟨s.resources_ascending.filter _, fun r => mem_find_iff_fileOf tree hroot pattern r⟩,
    fun rest => exists_fileOf tree hroot, fun r name place h => ?_, ?_, ?_⟩
  · have leads := h.locate_filePath tree hroot
    exact ⟨leads, h.resourceOf?_eq tree hroot leads, fun path => h.resourceOf?_eq tree hroot,
      fun t => h.load_eq tree hroot⟩
  · exact fun path path' place place' r => place_unique tree hroot
  · exact fun path place => resourceOf?_of_not_isUnder tree hroot

end Store

namespace Sample

def nestedFiles : Store where
  disk :=
    ((Disk.empty.addFile (Disk.descend [] (["P".toList, "User".toList, "a".toList] ++ ["b.txt".toList]))
      (.text "deep".toList)).addFile
        (Disk.descend [] (["P".toList, "User".toList] ++ ["a.txt".toList])) (.text "flat".toList)).addFile
          (Disk.descend [] (["PX".toList] ++ ["c.txt".toList])) (.text [])
  folder := "/P".toList
  packages := ".".toList

theorem isTree_nestedFiles : nestedFiles.disk.IsTree :=
  ((Disk.isTree_empty.addFile (by decide +kernel) _).addFile (by decide +kernel) _).addFile
    (by decide +kernel) _

end Sample

theorem Store.find_files_sample :
    Sample.nestedFiles.disk.IsTree ∧
      Sample.nestedFiles.disk.locate Sample.nestedFiles.folder Sample.nestedFiles.packages = .ok "/P".toList ∧
      "Packages/User/a/b.txt".toList ∈ Sample.nestedFiles.find "*.txt".toList ∧
      Sample.nestedFiles.resourceOf? "User/./a/../a/b.txt".toList = some "Packages/User/a/b.txt".toList ∧
      Sample.nestedFiles.load "Packages/User/a/b.txt".toList = .ok "deep".toList ∧
      Sample.nestedFiles.resourceOf? "../PX/c.txt".toList = none := by
  have root : Sample.nestedFiles.disk.locate Sample.nestedFiles.folder Sample.nestedFiles.packages =
      .ok "/P".toList := by decide +kernel
  obtain ⟨found, -, leads, -, outside⟩ := Store.find_files Sample.isTree_nestedFiles root
  have file : Sample.nestedFiles.FileOf "/P".toList "Packages/User/a/b.txt".toList "b.txt".toList
      "/P/User/a/b.txt".toList :=
    ⟨by decide +kernel, ["User".toList, "a".toList], by decide +kernel, by decide +kernel, by decide +kernel⟩
  obtain ⟨-, -, back, load⟩ := leads _ _ _ file
  refine ⟨Sample.isTree_nestedFiles, root, ((found _).2 _).2 ⟨_, _, file, by decide +kernel⟩,
    back _ (by decide +kernel), load _ (by decide +kernel), outside _ "/PX/c.txt".toList (by decide +kernel) ?_⟩
  rintro (same | ⟨rest, below⟩)
  · exact absurd same (by decide +kernel)
  · simp [Disk.child] at below

end SchemeCheck
