import SchemeCheck.Proofs.Disk.Resources
import SchemeCheck.Proofs.Fixture.Search
import SchemeCheck.Suite.Discover
set_option autoImplicit false

namespace SchemeCheck

namespace Resource

theorem exists_of_isFixtureName {r : Text} (h : isFixtureName r = true) :
    ∃ rest, Text.afterLast (fun c => c == '/' || c == '\\') r = fixtureStem ++ rest ∧ '.' ∈ rest ∧
      ∀ c ∈ Text.afterLast (· == '.') rest, isAsciiAlphanumeric c = true := by
  unfold isFixtureName at h
  split at h
  · simp at h
  · next rest hrest =>
    simp only [Bool.and_eq_true, List.all_eq_true, List.contains_iff_mem] at h
    exact ⟨rest, Text.after?_eq_some_iff.1 hrest, h.1.1.1, h.1.2⟩

/-- The suffix of a syntax holds a minus, as no extension of a fixture does. -/
theorem isFixtureName_ofSyntax (name : Text) : isFixtureName (ofSyntax name) = false := by
  rw [Bool.eq_false_iff]
  intro h
  obtain ⟨rest, file, dot, letters⟩ := exists_of_isFixtureName h
  have plain : ∀ c ∈ ".sublime-syntax".toList, (c == '/' || c == '\\') = false :=
    Text.forall_mem_of_all (by decide)
  rw [ofSyntax, Text.afterLast_append_all plain] at file
  have extension := congrArg (Text.afterLast (· == '.')) file
  rw [Text.afterLast_append_of_mem ⟨'.', dot, rfl⟩] at extension
  have minus : '-' ∈ Text.afterLast (· == '.') rest := by
    rw [← extension]
    rw [show ".sublime-syntax".toList = '.' :: "sublime-syntax".toList from rfl,
      Text.afterLast_append_sep (by decide)]
    decide
  exact absurd (letters '-' minus) (by decide)

theorem isMatch_of_isFixtureName {r : Text} (plain : '\\' ∉ baseName r)
    (h : isFixtureName r = true) : Glob.isMatch Suite.pattern (baseName r) = true := by
  obtain ⟨rest, file, -⟩ := exists_of_isFixtureName h
  have cut : Text.afterLast (fun c => c == '/' || c == '\\') r = baseName r :=
    Text.afterLast_or fun c hc => by
      have : c ≠ '\\' := fun same => plain (same ▸ hc)
      simpa using this
  rw [← cut, file]
  exact Glob.isMatch_star (Text.forall_mem_of_all (by decide)) rest

end Resource

theorem Catalog.exists_of_mem_bundled {packaged : List (Text × Grammar)} {r : Text}
    (h : r ∈ (Catalog.ofPackaged packaged).bundled) : ∃ name, r = Resource.ofSyntax name := by
  have named := (TextSet.mem_toList_ofList _ r).1 h
  rw [List.map_map, List.mem_map] at named
  obtain ⟨g, -, rfl⟩ := named
  exact ⟨g.name, rfl⟩

namespace Suite
variable {host : Host} {target : Text} {file : Option Text} {found : List Text}

def chosen (host : Host) (target : Text) (file : Option Text) (found : List Text) : List Text :=
  found.filter fun r => isAskedFor host file r && (packageOfTarget? host target r).isSome

theorem mem_chosen_iff {r : Text} : r ∈ chosen host target file found ↔
    r ∈ found ∧ isAskedFor host file r = true ∧
      ∃ package, packageOfTarget? host target r = some package := by
  rw [chosen, List.mem_filter, Bool.and_eq_true, Option.isSome_iff_exists]

theorem isFixtureName_of_packageOfTarget? {r package : Text}
    (h : packageOfTarget? host target r = some package) : Resource.isFixtureName r = true := by
  unfold packageOfTarget? at h
  split at h
  · next isFixture => exact isFixture
  · simp at h

theorem ofFound?_eq (host : Host) (target : Text) (file : Option Text) (found : List Text) :
    ofFound? host target file found =
      if chosen host target file found = [] then none
      else ((found.filterMap (packageOfTarget? host target)).getLast?).map fun package =>
        ⟨package, chosen host target file found, file⟩ := by
  let pairs := found.filterMap fun r =>
    (packageOfTarget? host target r).map fun package => (r, package)
  have resources : pairs.map (·.1) =
      found.filter fun r => (packageOfTarget? host target r).isSome := by
    rw [List.map_filterMap, ← List.filterMap_eq_filter]
    refine List.filterMap_congr fun r _ => ?_
    cases hp : packageOfTarget? host target r <;> simp [Option.guard, hp]
  have packages : pairs.map (·.2) = found.filterMap (packageOfTarget? host target) := by
    rw [List.map_filterMap]
    refine List.filterMap_congr fun r _ => ?_
    rw [Option.map_map]
    exact Option.map_id_apply
  have tests : (pairs.map (·.1)).filter (isAskedFor host file) = chosen host target file found := by
    rw [resources, List.filter_filter, chosen]
  rw [← packages, ← tests, List.getLast?_map, Option.map_map]
  rfl

theorem isSome_ofFound? : (ofFound? host target file found).isSome = true ↔
    ∃ r, r ∈ chosen host target file found := by
  rw [ofFound?_eq]
  constructor
  · intro isSome
    split at isSome
    · simp at isSome
    · next ne => exact List.exists_mem_of_ne_nil _ ne
  · rintro ⟨r, hr⟩
    obtain ⟨mem, -, package, qualified⟩ := mem_chosen_iff.1 hr
    have last : found.filterMap (packageOfTarget? host target) ≠ [] :=
      List.ne_nil_of_mem (List.mem_filterMap.2 ⟨r, mem, qualified⟩)
    rwa [if_neg (List.ne_nil_of_mem hr), Option.isSome_map, Option.isSome_iff_ne_none, Ne,
      List.getLast?_eq_none_iff]

theorem of_ofFound? {suite : Suite} (h : ofFound? host target file found = some suite) :
    suite.file = file ∧ suite.tests = chosen host target file found ∧
      ∃ r ∈ found, packageOfTarget? host target r = some suite.package := by
  rw [ofFound?_eq] at h
  split at h
  · simp at h
  · obtain ⟨package, last, rfl⟩ := Option.map_eq_some_iff.1 h
    exact ⟨rfl, rfl, List.mem_filterMap.1 (List.mem_of_getLast? last)⟩

end Suite

namespace Store

structure HasFixture (s : Store) (package r : Text) : Prop where
  mem : r ∈ s.resources
  package_eq : Resource.package? r = some package
  isFixture : Resource.isFixtureName r = true

def IsAskedFor (s : Store) (target r : Text) : Prop :=
  ∀ place, s.disk.locate s.folder target = .ok place → s.disk.isFile place = true →
    s.disk.locate s.folder (s.filePath r) = .ok place

/-- The target is the package's place in the packages folder or lies below it. A path that leads
nowhere lies where it is written. -/
def Encloses (s : Store) (package target : Text) : Prop :=
  ∃ root, s.disk.locate s.folder s.packages = .ok root ∧
    match s.disk.locate s.folder target with
    | .ok place => Disk.IsUnder (Disk.child root package) place
    | .error _ => Path.components (Disk.child root package) <+: Path.components target

variable {s : Store} {package target r : Text}

theorem encloses_iff (tree : s.disk.IsTree) {rootNames : List Text}
    (hroot : s.disk.locate s.folder s.packages = .ok (Disk.descend [] rootNames))
    (h : ∀ n ∈ rootNames ++ [package], Disk.IsName n) :
    s.Encloses package target ↔
      .root :: (rootNames ++ [package]).map Path.Component.name <+:
        Path.components (s.disk.canonical s.folder target) := by
  have place : Disk.child (Disk.descend [] rootNames) package =
      Disk.descend [] (rootNames ++ [package]) := (Disk.descend_concat _ _ _).symm
  have path : Disk.descend [] (rootNames ++ [package]) =
      Disk.pathOf (Disk.descend [] (rootNames ++ [package])) :=
    (if_neg (Disk.descend_ne_nil [] (by simp))).symm
  have unfolded : s.Encloses package target ↔
      match s.disk.locate s.folder target with
      | .ok place => Disk.IsUnder (Disk.descend [] (rootNames ++ [package])) place
      | .error _ => Path.components (Disk.descend [] (rootNames ++ [package])) <+:
          Path.components target := by
    rw [← place]
    constructor
    · rintro ⟨root, hroot', under⟩
      cases hroot.symm.trans hroot'
      exact under
    · exact fun under => ⟨_, hroot, under⟩
  rw [unfolded, Disk.canonical]
  -- what is not there has no names to compare, only the components of its path
  cases ht : s.disk.locate s.folder target with
  | error fault =>
    simp only
    rw [path, Disk.components_pathOf h]
  | ok there =>
    obtain ⟨names, hnames, rfl⟩ := tree.named there (tree.isPresent_of_locate ht)
    simp only
    rw [← Disk.isWithin_pathOf h hnames, Path.isWithin_iff, Disk.components_pathOf h]

theorem Encloses.unique (tree : s.disk.IsTree) {package' : Text} (h : s.Encloses package target)
    (h' : s.Encloses package' target) (isName : Disk.IsName package)
    (isName' : Disk.IsName package') : package = package' := by
  obtain ⟨root, hroot, -⟩ := id h
  obtain ⟨rootNames, hnames, rfl⟩ := tree.named root (tree.isPresent_of_locate hroot)
  have named : ∀ {name : Text}, Disk.IsName name → ∀ n ∈ rootNames ++ [name], Disk.IsName n := by
    intro name isName n hn
    rcases List.mem_append.1 hn with hn | hn
    · exact hnames n hn
    · exact List.mem_singleton.1 hn ▸ isName
  have start := (encloses_iff tree hroot (named isName)).1 h
  have start' := (encloses_iff tree hroot (named isName')).1 h'
  have same := (List.prefix_of_prefix_length_le start start' (by simp)).eq_of_length (by simp)
  simpa using same

theorem isWithin_package_iff (tree : s.disk.IsTree) (hr : r ∈ s.resources)
    (h : Resource.package? r = some package) :
    Path.isWithin (s.disk.canonical s.folder (s.filePath (Resource.packagesRoot ++ package)))
        (s.disk.canonical s.folder target) = true ↔
      s.Encloses package target := by
  obtain ⟨rootNames, name, names, hroot, hnames, there, rfl⟩ := exists_names tree hr
  cases (Resource.package?_ofNames (hnames name (by simp)) names).symm.trans h
  rw [List.append_cons] at hnames there
  have upTo : ∀ n ∈ rootNames ++ [package], Disk.IsName n := fun n hn =>
    hnames n (List.mem_append_left _ hn)
  have here : s.disk.isPresent (Disk.descend [] (rootNames ++ [package])) = true := by
    rw [Disk.descend_append] at there
    exact tree.isPresent_of_descend (fun n hn => hnames n (List.mem_append_right _ hn)) there
  have leads : s.disk.locate s.folder (s.filePath (Resource.packagesRoot ++ package)) =
      .ok (Disk.descend [] (rootNames ++ [package])) := by
    rw [Disk.descend_append] at here ⊢
    rw [← Resource.ofNames_singleton]
    exact locate_filePath tree hroot (fun n hn => upTo n (List.mem_append_right _ hn)) here
  have path : s.disk.canonical s.folder (s.filePath (Resource.packagesRoot ++ package)) =
      Disk.pathOf (Disk.descend [] (rootNames ++ [package])) := by rw [Disk.canonical, leads]
  rw [path, Path.isWithin_iff, Disk.components_pathOf upTo, encloses_iff tree hroot upTo]

variable {build : Nat} {platform : Text}

theorem packageOfTarget?_eq_some_iff (tree : s.disk.IsTree) (hr : r ∈ s.resources) :
    Suite.packageOfTarget? (DiskHost.ofStore s build platform).toHost
        (s.disk.canonical s.folder target) r = some package ↔
      s.HasFixture package r ∧ s.Encloses package target := by
  rw [Suite.packageOfTarget?]
  constructor
  · intro found
    split at found
    · next isFixture =>
      obtain ⟨package_eq, inside⟩ := Option.filter_eq_some_iff.1 found
      exact ⟨⟨hr, package_eq, isFixture⟩, (isWithin_package_iff tree hr package_eq).1 inside⟩
    · simp at found
  · rintro ⟨⟨-, package_eq, isFixture⟩, encloses⟩
    rw [if_pos isFixture]
    exact Option.filter_eq_some_iff.2
      ⟨package_eq, (isWithin_package_iff tree hr package_eq).2 encloses⟩

theorem isAskedFor_iff (tree : s.disk.IsTree) (hr : r ∈ s.resources) :
    Suite.isAskedFor (DiskHost.ofStore s build platform).toHost
        (if s.disk.hasFile s.folder target then some (s.disk.canonical s.folder target) else none)
        r = true ↔
      s.IsAskedFor target r := by
  by_cases isFile : s.disk.hasFile s.folder target = true
  · obtain ⟨place, leads, fileThere⟩ := Disk.hasFile_iff.1 isFile
    obtain ⟨names, hnames, rfl⟩ := tree.named place (tree.isPresent_of_locate leads)
    obtain ⟨rootNames, names', -, hnames', leads', -⟩ := exists_place tree hr
    have asked : Suite.isAskedFor (DiskHost.ofStore s build platform).toHost
        (some (s.disk.canonical s.folder target)) r = true ↔
          Path.components (Disk.pathOf (Disk.descend [] (rootNames ++ names'))) =
            Path.components (Disk.pathOf (Disk.descend [] names)) := by
      rw [Disk.canonical, leads]
      have path : (DiskHost.ofStore s build platform).toHost.canonical
          ((DiskHost.ofStore s build platform).toHost.fileName r) =
            Disk.pathOf (Disk.descend [] (rootNames ++ names')) := by
        change s.disk.canonical s.folder (s.filePath r) = _
        rw [Disk.canonical, leads']
      simp [Suite.isAskedFor, path]
    rw [if_pos isFile, asked]
    constructor
    · intro same other there _
      cases leads.symm.trans there
      rw [leads', Disk.components_pathOf_inj hnames' hnames same]
    · intro asked
      rw [Except.ok.inj (leads'.symm.trans (asked _ leads fileThere))]
  · rw [if_neg isFile]
    refine iff_of_true rfl fun place leads fileThere => ?_
    exact absurd (Disk.hasFile_iff.2 ⟨place, leads, fileThere⟩) isFile

theorem mem_find_iff (plain : ∀ r ∈ s.resources, '\\' ∉ Resource.baseName r)
    (isFixture : Resource.isFixtureName r = true) :
    r ∈ (DiskHost.ofStore s build platform).toHost.find Suite.pattern ↔ r ∈ s.resources := by
  rw [(DiskHost.ofStore s build platform).holds, List.mem_filter, TextSet.mem_toList_ofList,
    List.mem_append]
  constructor
  · rintro ⟨stored | bundled, -⟩
    · exact stored
    · obtain ⟨name, rfl⟩ := Catalog.exists_of_mem_bundled bundled
      rw [Resource.isFixtureName_ofSyntax] at isFixture
      simp at isFixture
  · exact fun stored => ⟨.inl stored, Resource.isMatch_of_isFixtureName (plain r stored) isFixture⟩

abbrev chosen (s : Store) (build : Nat) (platform target : Text) : List Text :=
  let host := (DiskHost.ofStore s build platform).toHost
  Suite.chosen host (s.disk.canonical s.folder target)
    (if s.disk.hasFile s.folder target then some (s.disk.canonical s.folder target) else none)
    (host.find Suite.pattern)

theorem mem_chosen_iff (tree : s.disk.IsTree)
    (plain : ∀ r ∈ s.resources, '\\' ∉ Resource.baseName r) :
    r ∈ s.chosen build platform target ↔
      ∃ package, s.HasFixture package r ∧ s.Encloses package target ∧ s.IsAskedFor target r := by
  rw [chosen, Suite.mem_chosen_iff]
  constructor
  · rintro ⟨found, asked, package, qualified⟩
    have isFixture := Suite.isFixtureName_of_packageOfTarget? qualified
    have hr := (mem_find_iff plain isFixture).1 found
    obtain ⟨fixture, encloses⟩ := (packageOfTarget?_eq_some_iff tree hr).1 qualified
    exact ⟨package, fixture, encloses, (isAskedFor_iff tree hr).1 asked⟩
  · rintro ⟨package, fixture, encloses, asked⟩
    exact ⟨(mem_find_iff plain fixture.isFixture).2 fixture.mem,
      (isAskedFor_iff tree fixture.mem).2 asked, package,
      (packageOfTarget?_eq_some_iff tree fixture.mem).2 ⟨fixture, encloses⟩⟩

theorem ascending_chosen (s : Store) (build : Nat) (platform target : Text) :
    (s.chosen build platform target).Pairwise (· < ·) := by
  refine List.Pairwise.filter _ ?_
  rw [(DiskHost.ofStore s build platform).holds]
  exact (TextSet.ascending_toList _).filter _

theorem value_discover (tree : s.disk.IsTree) :
    (Suite.discover (DiskHost.ofStore s build platform).toHost target).value =
      Suite.ofFound? (DiskHost.ofStore s build platform).toHost (s.disk.canonical s.folder target)
        (if s.disk.hasFile s.folder target then some (s.disk.canonical s.folder target) else none)
        ((DiskHost.ofStore s build platform).toHost.find Suite.pattern) := by
  rw [← tree.hasFile_canonical]
  rfl

theorem of_discover (tree : s.disk.IsTree)
    (plain : ∀ r ∈ s.resources, '\\' ∉ Resource.baseName r) {suite : Suite}
    (h : (Suite.discover (DiskHost.ofStore s build platform).toHost target).value = some suite) :
    s.Encloses suite.package target ∧ suite.tests ≠ [] ∧ suite.tests.Pairwise (· < ·) ∧
      (∀ r, r ∈ suite.tests ↔ s.HasFixture suite.package r ∧ s.IsAskedFor target r) ∧
      suite.file =
        if s.disk.hasFile s.folder target then some (s.disk.canonical s.folder target) else none := by
  rw [value_discover tree] at h
  obtain ⟨first, hfirst⟩ : ∃ r, r ∈ s.chosen build platform target :=
    Suite.isSome_ofFound?.1 (by rw [h]; rfl)
  obtain ⟨file, tests, last, found, qualified⟩ := Suite.of_ofFound? h
  have isFixture := Suite.isFixtureName_of_packageOfTarget? qualified
  have hlast := (mem_find_iff plain isFixture).1 found
  obtain ⟨fixture, encloses⟩ := (packageOfTarget?_eq_some_iff tree hlast).1 qualified
  have isName := isName_of_package? tree fixture.mem fixture.package_eq
  refine ⟨encloses, tests ▸ List.ne_nil_of_mem hfirst,
    tests ▸ ascending_chosen s build platform target, fun r => ?_, file⟩
  rw [tests]
  refine (mem_chosen_iff tree plain).trans ⟨?_, fun ⟨fixture, asked⟩ => ⟨_, fixture, encloses, asked⟩⟩
  rintro ⟨package, fixture', encloses', asked⟩
  have isName' := isName_of_package? tree fixture'.mem fixture'.package_eq
  cases encloses'.unique tree encloses isName' isName
  exact ⟨fixture', asked⟩

end Store

/-- A path has a suite where it lies in a package with a fixture, which is the file it leads to if it
leads to one. The suite has that fixture, or all fixtures of this package. -/
theorem Suite.discover_package {s : Store} (tree : s.disk.IsTree)
    (plain : ∀ r ∈ s.resources, '\\' ∉ Resource.baseName r) (build : Nat) (platform target : Text) :
    let found := (Suite.discover (DiskHost.ofStore s build platform).toHost target).value
    (found.isSome = true ↔ ∃ package, s.Encloses package target ∧
        ∃ r, s.HasFixture package r ∧ s.IsAskedFor target r) ∧
      ∀ suite, found = some suite →
        s.Encloses suite.package target ∧ suite.tests ≠ [] ∧ suite.tests.Pairwise (· < ·) ∧
        (s.disk.hasFile s.folder target = false →
          suite.file = none ∧ ∀ r, r ∈ suite.tests ↔ s.HasFixture suite.package r) ∧
        ∀ place, s.disk.locate s.folder target = .ok place → s.disk.isFile place = true →
          suite.file = some (Disk.pathOf place) ∧
          ∃ r, suite.tests = [r] ∧ s.HasFixture suite.package r ∧
            s.disk.locate s.folder (s.filePath r) = .ok place := by
  intro found
  constructor
  · have chosen : found.isSome = true ↔ ∃ r, r ∈ s.chosen build platform target := by
      rw [show found = _ from Store.value_discover tree]
      exact Suite.isSome_ofFound?
    rw [chosen]
    constructor
    · rintro ⟨r, hr⟩
      obtain ⟨package, fixture, encloses, asked⟩ := (Store.mem_chosen_iff tree plain).1 hr
      exact ⟨package, encloses, r, fixture, asked⟩
    · rintro ⟨package, encloses, r, fixture, asked⟩
      exact ⟨r, (Store.mem_chosen_iff tree plain).2 ⟨package, fixture, encloses, asked⟩⟩
  · intro suite h
    obtain ⟨encloses, ne, ascending, member, file⟩ := Store.of_discover tree plain h
    obtain ⟨first, hfirst⟩ := List.exists_mem_of_ne_nil _ ne
    refine ⟨encloses, ne, ascending, fun noFile => ⟨by simp [file, noFile], fun r => ?_⟩,
      fun place leads isFile => ⟨?_, first, ?_⟩⟩
    · rw [member]
      refine and_iff_left fun place leads isFile => ?_
      rw [Disk.hasFile_iff.2 ⟨place, leads, isFile⟩] at noFile
      simp at noFile
    · rw [file, if_pos (Disk.hasFile_iff.2 ⟨place, leads, isFile⟩), Disk.canonical, leads]
    · obtain ⟨fixture, asked⟩ := (member first).1 hfirst
      have path := asked place leads isFile
      have byName : suite.tests.Pairwise fun a b => id a < id b := ascending
      refine ⟨eq_of_ascending byName (List.pairwise_singleton _ _) fun r => ?_, fixture, path⟩
      rw [List.mem_singleton]
      refine ⟨fun hr => ?_, fun same => same ▸ hfirst⟩
      obtain ⟨fixture', asked'⟩ := (member r).1 hr
      exact Store.eq_of_locate_filePath tree fixture'.mem fixture.mem (asked' place leads isFile) path

namespace Sample

def fixtureFile : Text := "color_scheme_test_a.txt".toList

def twoPackages : Store where
  disk :=
    (Disk.empty.addFile (Disk.descend [] (["Packages".toList, "User".toList] ++ [fixtureFile]))
      (.text [])).addFile
        (Disk.descend [] (["Packages".toList, "UserX".toList] ++ [fixtureFile])) (.text [])
  folder := []
  packages := "/Packages".toList

theorem isTree_twoPackages : twoPackages.disk.IsTree :=
  (Disk.isTree_empty.addFile (by decide +kernel) _).addFile (by decide +kernel) _

end Sample

theorem Suite.discover_package_sample :
    Sample.twoPackages.disk.IsTree ∧
      (∀ r ∈ Sample.twoPackages.resources, '\\' ∉ Resource.baseName r) ∧
      ∃ suite, (Suite.discover (DiskHost.ofStore Sample.twoPackages 4200 []).toHost
          "/Packages/User".toList).value = some suite ∧
        suite.package = "User".toList ∧ suite.file = none ∧
        "Packages/User/color_scheme_test_a.txt".toList ∈ suite.tests ∧
        "Packages/UserX/color_scheme_test_a.txt".toList ∉ suite.tests := by
  have tree := Sample.isTree_twoPackages
  have plain : ∀ r ∈ Sample.twoPackages.resources, '\\' ∉ Resource.baseName r := by decide +kernel
  obtain ⟨isSome, each⟩ :=
    Suite.discover_package tree plain 4200 [] "/Packages/User".toList
  have fixture : Sample.twoPackages.HasFixture "User".toList
      "Packages/User/color_scheme_test_a.txt".toList :=
    ⟨by decide +kernel, by decide +kernel, by decide +kernel⟩
  have other : Resource.package? "Packages/UserX/color_scheme_test_a.txt".toList =
      some "UserX".toList := by decide +kernel
  have root : Sample.twoPackages.disk.locate Sample.twoPackages.folder Sample.twoPackages.packages =
      .ok "/Packages".toList := by decide +kernel
  have leads : Sample.twoPackages.disk.locate Sample.twoPackages.folder "/Packages/User".toList =
      .ok "/Packages/User".toList := by decide +kernel
  have encloses : Sample.twoPackages.Encloses "User".toList "/Packages/User".toList := by
    refine ⟨_, root, ?_⟩
    rw [leads]
    exact .inl rfl
  have noFile : Sample.twoPackages.disk.hasFile Sample.twoPackages.folder
      "/Packages/User".toList = false := by decide +kernel
  have asked : Sample.twoPackages.IsAskedFor "/Packages/User".toList
      "Packages/User/color_scheme_test_a.txt".toList := fun place there isFile => by
    rw [Disk.hasFile_iff.2 ⟨place, there, isFile⟩] at noFile
    simp at noFile
  obtain ⟨suite, found⟩ := Option.isSome_iff_exists.1
    (isSome.2 ⟨_, encloses, _, fixture, asked⟩)
  obtain ⟨enclosed, ne, -, whole, -⟩ := each suite found
  obtain ⟨file, tests⟩ := whole noFile
  obtain ⟨first, hfirst⟩ := List.exists_mem_of_ne_nil _ ne
  have fixture' := (tests first).1 hfirst
  have package : suite.package = "User".toList :=
    enclosed.unique tree encloses
      (Store.isName_of_package? tree fixture'.mem fixture'.package_eq) (by decide +kernel)
  refine ⟨tree, plain, suite, found, package, file, (tests _).2 (package ▸ fixture), fun inside => ?_⟩
  have wrong := ((tests _).1 inside).package_eq
  rw [package, other] at wrong
  exact absurd wrong (by decide +kernel)

end SchemeCheck
