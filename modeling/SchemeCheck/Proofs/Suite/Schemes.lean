import SchemeCheck.Proofs.Fixture.Search
import SchemeCheck.Proofs.Suite.Coverage
set_option autoImplicit false

/-!
Reports by resource. Coverage is collected under the names of color schemes. Names that all say where
the scheme lies are one for each resource, and so are literal names that are all searched for, so such
fixtures share a report where they share a resource. A searched name is never that of a resource.
-/

namespace SchemeCheck

namespace Resource

/-- Both names say where the scheme lies, or both are searched for, as they stand. -/
inductive SameSpelling : Text → Text → Prop where
  | placed {a b : Text} : ¬ IsBare a → ¬ IsBare b → SameSpelling a b
  | searched {a b : Text} : IsBare a → IsBare b → (∀ c ∈ a ++ b, Glob.IsLiteral c) → SameSpelling a b

theorem rooted_not_bare (name : Text) : ¬ IsBare (rooted name) := by
  obtain ⟨rest, h⟩ := exists_rooted name
  intro bare
  rw [h] at bare
  exact bare.2 (List.mem_append_left _ (by decide))

theorem normalizeScheme_idem (scheme : Text) :
    normalizeScheme (normalizeScheme scheme) = normalizeScheme scheme := by
  by_cases bare : IsBare scheme
  · rw [normalizeScheme_bare bare, normalizeScheme_bare bare]
  · rw [normalizeScheme_not_bare bare, normalizeScheme_not_bare (rooted_not_bare scheme),
      rooted_rooted]

theorem baseName_append {name : Text} (h : '/' ∉ name) (folder : Text) :
    baseName (folder ++ '/' :: name) = name := Text.afterLast_append_sep h folder

end Resource

namespace Host
variable {host : Host} {resources : List Text}

theorem Holds.baseName_themeResource (h : host.Holds resources) {scheme : Text}
    (bare : Resource.IsBare scheme) (literal : ∀ c ∈ scheme, Glob.IsLiteral c) :
    Resource.baseName (host.themeResource scheme) = scheme := by
  unfold themeResource schemePath
  rw [h.find_literal literal]
  split
  · next r only =>
    have named : r ∈ Resource.named resources scheme := by simp [only]
    simpa [Resource.named] using (List.mem_filter.1 named).2
  · rw [Resource.rooted_of_not_mem bare.2]
    exact Resource.baseName_append bare.2 "Packages".toList

theorem Holds.normalizeScheme_eq (h : host.Holds resources) {a b : Text}
    (spelling : Resource.SameSpelling a b)
    (same : host.themeResource (Resource.normalizeScheme a) =
      host.themeResource (Resource.normalizeScheme b)) :
    Resource.normalizeScheme a = Resource.normalizeScheme b := by
  cases spelling with
  | placed ha hb =>
    rw [Resource.normalizeScheme_not_bare ha, Resource.normalizeScheme_not_bare hb] at same ⊢
    rwa [h.themeResource_rooted, h.themeResource_rooted] at same
  | searched ha hb literal =>
    rw [Resource.normalizeScheme_bare ha, Resource.normalizeScheme_bare hb] at same ⊢
    have nameA := h.baseName_themeResource ha fun c hc => literal c (List.mem_append_left _ hc)
    have nameB := h.baseName_themeResource hb fun c hc => literal c (List.mem_append_right _ hc)
    rw [← nameA, ← nameB, same]

end Host

namespace Suite
variable {host : Host} {suite : Suite} {debug : Bool}

theorem schemePath_of_mem_reports {r : Coverage.SchemeReport} (hr : r ∈ suite.reports host debug) :
    Resource.normalizeScheme r.colorScheme = r.colorScheme := by
  have collects := (suite.gathers_last host debug false).coverage
  obtain ⟨entry, -⟩ := (Coverage.mem_reports_iff _ host r).1 hr
  obtain ⟨_, hrun, file, status, colorScheme, -⟩ :=
    (collects.names_iff r.colorScheme).1 ((Dict.contains_iff _ _).2 ⟨_, entry⟩)
  obtain ⟨test, -, rfl⟩ := List.mem_map.1 hrun
  obtain ⟨content, header, syntaxFile, theme, view, renders⟩ := Host.isRendered_of_status status
  have name : header.schemePath = r.colorScheme :=
    Option.some.inj (renders.renderedWith.2.1.symm.trans colorScheme)
  rw [← name]
  exact Resource.normalizeScheme_idem header.colorScheme

theorem eq_of_mem_reports {r r' : Coverage.SchemeReport} (hr : r ∈ suite.reports host debug)
    (hr' : r' ∈ suite.reports host debug) (same : r.colorScheme = r'.colorScheme) : r = r' := by
  obtain ⟨entry, theme, loaded, info, isLegacy⟩ := (Coverage.mem_reports_iff _ host r).1 hr
  obtain ⟨entry', theme', loaded', info', isLegacy'⟩ := (Coverage.mem_reports_iff _ host r').1 hr'
  rw [same] at entry loaded
  cases loaded.symm.trans loaded'
  cases r
  cases r'
  simp_all

end Suite

/-- Reports whose names are spelled alike are on different resources, each with the document read from
its own. Fixtures that reach one resource by names spelled alike are told of in one report. -/
theorem Suite.reports_of_resources {host : Host} {resources : List Text} (holds : host.Holds resources)
    (suite : Suite) (debug : Bool) :
    (∀ r ∈ suite.reports host debug,
      (∃ theme, host.readTheme (host.themeResource r.colorScheme) = .ok theme ∧
        r.info = Coverage.extract theme ∧ r.isLegacy = theme.isLegacy) ∧
      ∀ r' ∈ suite.reports host debug, Resource.SameSpelling r.colorScheme r'.colorScheme →
        host.themeResource r.colorScheme = host.themeResource r'.colorScheme → r = r') ∧
    ∀ test ∈ suite.tests, ∀ test' ∈ suite.tests,
      ∀ content header syntaxFile theme view content' header' syntaxFile' theme' view',
        host.Renders test content header syntaxFile theme view →
        host.Renders test' content' header' syntaxFile' theme' view' →
        Resource.SameSpelling header.colorScheme header'.colorScheme →
        host.themeResource header.schemePath = host.themeResource header'.schemePath →
        ∃ r ∈ suite.reports host debug,
          host.themeResource r.colorScheme = host.themeResource header.schemePath ∧
          syntaxFile ∈ r.syntaxes.toList ∧ syntaxFile' ∈ r.syntaxes.toList := by
  constructor
  · intro r hr
    obtain ⟨-, theme, loaded, info, isLegacy⟩ := (Coverage.mem_reports_iff _ host r).1 hr
    refine ⟨⟨theme, host.value_loadTheme r.colorScheme ▸ loaded, info, isLegacy⟩, ?_⟩
    intro r' hr' spelling same
    rw [← schemePath_of_mem_reports hr, ← schemePath_of_mem_reports hr'] at same
    have name := holds.normalizeScheme_eq spelling same
    rw [schemePath_of_mem_reports hr, schemePath_of_mem_reports hr'] at name
    exact eq_of_mem_reports hr hr' name
  · intro test mem test' mem' content header syntaxFile theme view content' header' syntaxFile' theme'
      view' renders renders' spelling same
    have collects := (suite.gathers_last host debug false).coverage
    have name : header.schemePath = header'.schemePath := holds.normalizeScheme_eq spelling same
    obtain ⟨r, hr, named, tested⟩ := collects.exists_report mem renders
    obtain ⟨r', hr', named', tested'⟩ := collects.exists_report mem' renders'
    have one : r = r' := eq_of_mem_reports hr hr' (named.trans (name.trans named'.symm))
    exact ⟨r, hr, by rw [named], tested, one ▸ tested'⟩

namespace Sample

def placedScheme : Text := "Packages/User/s.hidden-color-scheme".toList

def otherFixture : Text := ['u']

def otherSyntaxFile : Text := "Y.sublime-syntax".toList

def schemeHeader (name syntaxName : Text) : Header := ⟨name, some syntaxName, false, some .slashes⟩

def spelled (name name' : Text) : MemoryHost :=
  let fixtures := (Dict.empty.insert fixture (schemeHeader name ['X']).render).insert otherFixture
    (schemeHeader name' ['Y']).render
  { memory [] with
    files := ((fixtures.insert syntaxFile []).insert otherSyntaxFile []).insert placedScheme schemeText }

def bothFixtures : Suite := ⟨['p'], [fixture, otherFixture], none⟩

def belowPackages : Text := "User/s.hidden-color-scheme".toList

end Sample

theorem Suite.reports_of_resources_sample :
    let host := (Sample.spelled Sample.belowPackages Sample.placedScheme).toHost
    host.Holds (Sample.spelled Sample.belowPackages Sample.placedScheme).files.keys ∧
      ∃ r ∈ Sample.bothFixtures.reports host false,
        host.themeResource r.colorScheme = Sample.placedScheme ∧
        Sample.syntaxFile ∈ r.syntaxes.toList ∧ Sample.otherSyntaxFile ∈ r.syntaxes.toList := by
  intro host
  have holds := (Sample.spelled Sample.belowPackages Sample.placedScheme).holds_keys
  obtain ⟨-, merged⟩ := Suite.reports_of_resources holds Sample.bothFixtures false
  have passed : (host.runFixture Sample.fixture).value.status = .passed := by decide +kernel
  have passed' : (host.runFixture Sample.otherFixture).value.status = .passed := by decide +kernel
  obtain ⟨content, header, syntaxFile, theme, view, renders⟩ := Host.isRendered_of_status (.inl passed)
  obtain ⟨content', header', syntaxFile', theme', view', renders'⟩ :=
    Host.isRendered_of_status (.inl passed')
  cases renders.load
  cases renders'.load
  have read : Header.read? (Sample.schemeHeader Sample.belowPackages ['X']).render =
      some (Sample.schemeHeader Sample.belowPackages ['X']) := by decide +kernel
  have read' : Header.read? (Sample.schemeHeader Sample.placedScheme ['Y']).render =
      some (Sample.schemeHeader Sample.placedScheme ['Y']) := by decide +kernel
  cases read.symm.trans renders.read
  cases read'.symm.trans renders'.read
  have ran : (host.runFixture Sample.fixture).value.syntaxFile = some Sample.syntaxFile := by
    decide +kernel
  have ran' : (host.runFixture Sample.otherFixture).value.syntaxFile = some Sample.otherSyntaxFile := by
    decide +kernel
  cases ran.symm.trans renders.renderedWith.2.2
  cases ran'.symm.trans renders'.renderedWith.2.2
  obtain ⟨r, hr, resource, tested, tested'⟩ := merged _ (by simp [Sample.bothFixtures]) _
    (by simp [Sample.bothFixtures]) _ _ _ _ _ _ _ _ _ _ renders renders'
    (.placed (by decide +kernel) (by decide +kernel)) (by decide +kernel)
  have placed : host.themeResource (Sample.schemeHeader Sample.belowPackages ['X']).schemePath =
      Sample.placedScheme := by decide +kernel
  exact ⟨holds, r, hr, resource.trans placed, tested, tested'⟩

/-- A scheme that is searched for and named by its path, too, has two reports. -/
theorem Suite.reports_of_searched :
    let host := (Sample.spelled "s.hidden-color-scheme".toList Sample.belowPackages).toHost
    (Sample.bothFixtures.reports host false).map
        (fun r => (host.themeResource r.colorScheme, r.syntaxes.toList)) =
      [(Sample.placedScheme, [Sample.otherSyntaxFile]), (Sample.placedScheme, [Sample.syntaxFile])] := by
  decide +kernel

end SchemeCheck
