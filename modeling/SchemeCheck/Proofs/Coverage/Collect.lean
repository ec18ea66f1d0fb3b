import SchemeCheck.Proofs.Coverage.Extract
import SchemeCheck.Proofs.Fixture.Outcome
import SchemeCheck.Suite.Run
set_option autoImplicit false

/-!
What is collected for coverage, and the reports on it. The names of rendered runs are collected, in
whatever order they come; each color scheme among them loads once more as it did for its fixtures, so
that none is left out of the reports.
-/

namespace SchemeCheck

def FixtureRun.RenderedWith (run : FixtureRun) (colorScheme syntaxFile : Text) : Prop :=
  (run.status = .passed ∨ run.status = .failed) ∧ run.colorScheme = some colorScheme ∧
    run.syntaxFile = some syntaxFile

theorem FixtureRun.renderedWith_iff_passed {run : FixtureRun} (unfailed : run.status ≠ .failed)
    {colorScheme syntaxFile : Text} : run.RenderedWith colorScheme syntaxFile ↔
      run.status = .passed ∧ run.colorScheme = some colorScheme ∧ run.syntaxFile = some syntaxFile :=
  and_congr_left' ⟨fun status => status.resolve_right unfailed, .inl⟩

theorem FixtureRun.RenderedWith.not_skipped {run : FixtureRun} {colorScheme syntaxFile : Text}
    (h : run.RenderedWith colorScheme syntaxFile) : run.status ≠ .skipped := by
  rcases h.1 with passed | failed
  · simp [passed]
  · simp [failed]

namespace Host
variable {host : Host} {test content syntaxFile name : Text} {header : Header} {theme : Theme}
  {view : View}

theorem Renders.renderedWith (h : host.Renders test content header syntaxFile theme view) :
    (host.runFixture test).value.RenderedWith header.schemePath syntaxFile := by
  rw [h.value_runFixture]
  exact ⟨status_evaluate .., rfl, rfl⟩

def IsRendered (host : Host) (test : Text) : Prop :=
  ∃ content header syntaxFile theme view, host.Renders test content header syntaxFile theme view

theorem isRendered_of_status
    (h : (host.runFixture test).value.status = .passed ∨ (host.runFixture test).value.status = .failed) :
    host.IsRendered test := by
  rcases host.stops_or_leavesOut_or_renders test with ⟨e, stops⟩ | ⟨_, _, leavesOut⟩ | renders
  · rw [runFixture_of_stops stops] at h
    simp [FixtureRun.stopped] at h
  · rw [leavesOut.value_runFixture] at h
    simp [FixtureRun.leftOut] at h
  · exact renders

theorem exists_renderedWith_iff :
    (∃ name file, (host.runFixture test).value.RenderedWith name file) ↔ host.IsRendered test :=
  ⟨fun ⟨_, _, h⟩ => isRendered_of_status h.1, fun ⟨_, _, _, _, _, h⟩ => ⟨_, _, h.renderedWith⟩⟩

end Host

namespace Coverage

def syntaxesOf (c : Coverage) (colorScheme : Text) : TextSet :=
  (c.tested.get? colorScheme).getD Dict.empty

/-- The color schemes and syntaxes of some runs, those of the rendered runs and no others. -/
structure Collects (runs : List FixtureRun) (c : Coverage) : Prop where
  names_iff : ∀ name, c.tested.contains name = true ↔
    ∃ run ∈ runs, ∃ file, run.RenderedWith name file
  syntaxes_iff : ∀ name file, file ∈ (c.syntaxesOf name).toList ↔
    ∃ run ∈ runs, run.RenderedWith name file

variable {runs : List FixtureRun} {c : Coverage}

theorem collects_new (singleFile : Bool) : (new true singleFile).Collects [] :=
  ⟨by simp [new, Dict.contains], by simp [new, syntaxesOf]⟩

theorem contains_record (enabled : c.enabled = true) (colorScheme file name : Text) :
    (c.record colorScheme file).tested.contains name = true ↔
      name = colorScheme ∨ c.tested.contains name = true := by
  simp only [record, enabled, if_true, Dict.contains, Dict.get?_insert]
  split <;> simp [*]

theorem mem_syntaxesOf_record (enabled : c.enabled = true) (colorScheme file name file' : Text) :
    file' ∈ ((c.record colorScheme file).syntaxesOf name).toList ↔
      name = colorScheme ∧ file' = file ∨ file' ∈ (c.syntaxesOf name).toList := by
  simp only [record, enabled, if_true, syntaxesOf, Dict.get?_insert]
  split
  · next same =>
    subst same
    simp [TextSet.mem_toList_insert]
  · next other => simp [other]

theorem tested_of_renderedWith (c : Coverage) {run : FixtureRun} {name file : Text}
    (h : run.RenderedWith name file) : SuiteState.tested c run = c.record name file := by
  obtain ⟨passed | failed, colorScheme, syntaxFile⟩ := h
  · simp only [SuiteState.tested, passed, colorScheme, syntaxFile]
  · simp only [SuiteState.tested, failed, colorScheme, syntaxFile]

theorem tested_of_not_renderedWith (c : Coverage) {run : FixtureRun}
    (h : ∀ name file, ¬ run.RenderedWith name file) : SuiteState.tested c run = c := by
  rw [SuiteState.tested]
  split
  · next passed colorScheme syntaxFile => exact absurd ⟨.inl passed, colorScheme, syntaxFile⟩ (h _ _)
  · next failed colorScheme syntaxFile => exact absurd ⟨.inr failed, colorScheme, syntaxFile⟩ (h _ _)
  · rfl

theorem enabled_singleFile_tested (c : Coverage) (run : FixtureRun) :
    (SuiteState.tested c run).enabled = c.enabled ∧
      (SuiteState.tested c run).singleFile = c.singleFile := by
  by_cases rendered : ∃ name file, run.RenderedWith name file
  · obtain ⟨name, file, hrun⟩ := rendered
    rw [tested_of_renderedWith c hrun, record]
    split
    · exact ⟨rfl, rfl⟩
    · exact ⟨rfl, rfl⟩
  · rw [tested_of_not_renderedWith c (by simpa using rendered)]
    exact ⟨rfl, rfl⟩

theorem Collects.tested (h : c.Collects runs) (enabled : c.enabled = true) (run : FixtureRun) :
    (SuiteState.tested c run).Collects (runs ++ [run]) := by
  by_cases rendered : ∃ name file, run.RenderedWith name file
  · obtain ⟨name, file, hrun⟩ := rendered
    -- A run has one pair of names, so that its entry is the only one that is new.
    have only : ∀ name' file', run.RenderedWith name' file' ↔ name' = name ∧ file' = file := by
      refine fun name' file' => ⟨fun ⟨_, colorScheme, syntaxFile⟩ => ?_, fun ⟨hn, hf⟩ => hn ▸ hf ▸ hrun⟩
      exact ⟨Option.some.inj (colorScheme.symm.trans hrun.2.1),
        Option.some.inj (syntaxFile.symm.trans hrun.2.2)⟩
    rw [tested_of_renderedWith c hrun]
    refine ⟨fun name' => ?_, fun name' file' => ?_⟩
    · rw [contains_record enabled, h.names_iff]
      simp [only, or_and_right, exists_or, or_comm]
    · rw [mem_syntaxesOf_record enabled, h.syntaxes_iff]
      simp [only, or_and_right, exists_or, or_comm]
  · have none : ∀ name file, ¬ run.RenderedWith name file := by simpa using rendered
    rw [tested_of_not_renderedWith c none]
    refine ⟨fun name => ?_, fun name file => ?_⟩
    · rw [h.names_iff]
      simp [none, or_and_right, exists_or]
    · rw [h.syntaxes_iff]
      simp [none, or_and_right, exists_or]

theorem Collects.tested_eq {runs' : List FixtureRun} {c' : Coverage} (h : c.Collects runs)
    (h' : c'.Collects runs') (same : ∀ name file, (∃ run ∈ runs, run.RenderedWith name file) ↔
      ∃ run ∈ runs', run.RenderedWith name file) : c.tested = c'.tested := by
  refine Dict.ext_get? fun name => ?_
  have syntaxes : c.syntaxesOf name = c'.syntaxesOf name :=
    TextSet.ext_toList fun file => by rw [h.syntaxes_iff, h'.syntaxes_iff, same]
  have contained : c.tested.contains name = true ↔ c'.tested.contains name = true := by
    rw [h.names_iff, h'.names_iff]
    constructor
    · rintro ⟨run, mem, file, rendered⟩
      obtain ⟨run', mem', rendered'⟩ := (same name file).1 ⟨run, mem, rendered⟩
      exact ⟨run', mem', file, rendered'⟩
    · rintro ⟨run, mem, file, rendered⟩
      obtain ⟨run', mem', rendered'⟩ := (same name file).2 ⟨run, mem, rendered⟩
      exact ⟨run', mem', file, rendered'⟩
  simp only [syntaxesOf, Dict.contains] at syntaxes contained
  cases hc : c.tested.get? name <;> cases hc' : c'.tested.get? name <;> simp_all

def reportOn? (host : Host) (colorScheme : Text) (syntaxes : TextSet) : Option SchemeReport :=
  (host.loadTheme colorScheme).value.toOption.map fun theme =>
    { colorScheme, syntaxes, info := extract theme, isLegacy := theme.isLegacy }

theorem value_reportsOn (host : Host) (entries : List (Text × TextSet)) :
    ((Changing.reportsOn entries).on (.always host)).value =
      entries.filterMap fun e => reportOn? host e.1 e.2 := by
  induction entries with
  | nil => rfl
  | cons entry entries ih =>
    obtain ⟨colorScheme, syntaxes⟩ := entry
    rw [List.filterMap_cons, ← ih, Changing.reportsOn, reportOn?]
    simp only [Changing.value_bind_always, Changing.loadTheme_always]
    cases (host.loadTheme colorScheme).value <;> rfl

theorem mem_reports_iff (c : Coverage) (host : Host) (r : SchemeReport) :
    r ∈ (c.reports host).value ↔ c.tested.get? r.colorScheme = some r.syntaxes ∧
      ∃ theme, (host.loadTheme r.colorScheme).value = .ok theme ∧ r.info = extract theme ∧
        r.isLegacy = theme.isLegacy := by
  rw [reports, value_reportsOn, List.mem_filterMap]
  constructor
  · rintro ⟨⟨colorScheme, syntaxes⟩, mem, made⟩
    cases loaded : (host.loadTheme colorScheme).value with
    | error e => simp [reportOn?, loaded, Except.toOption] at made
    | ok theme =>
      simp only [reportOn?, loaded, Except.toOption, Option.map_some, Option.some.injEq] at made
      subst made
      exact ⟨(c.tested.mem_entries_iff ..).1 mem, theme, loaded, rfl, rfl⟩
  · rintro ⟨entry, theme, loaded, info, isLegacy⟩
    refine ⟨(r.colorScheme, r.syntaxes), (c.tested.mem_entries_iff ..).2 entry, ?_⟩
    simp only [reportOn?, loaded, Except.toOption, Option.map_some, ← info, ← isLegacy]

theorem reports_ascending (c : Coverage) (host : Host) :
    (c.reports host).value.Pairwise (fun r r' => r.colorScheme < r'.colorScheme) := by
  have named : ∀ e : Text × TextSet, ∀ r ∈ reportOn? host e.1 e.2, r.colorScheme = e.1 := by
    intro e r made
    obtain ⟨theme, -, rfl⟩ := Option.map_eq_some_iff.1 made
    rfl
  rw [reports, value_reportsOn]
  refine c.tested.ascending.filterMap _ fun e e' lt r hr r' hr' => ?_
  rw [named e r hr, named e' r' hr']
  exact lt

theorem value_finish (c : Coverage) (host : Host) (enabled : c.enabled = true) :
    (c.finish host).value =
      if c.tested.entries = [] then [] else report c.singleFile (c.reports host).value := by
  rw [finish, Changing.finish, reports, enabled]
  cases c.tested.entries <;> rfl

theorem syntaxesOf_report {host : Host} {r : SchemeReport} (hr : r ∈ (c.reports host).value) :
    c.syntaxesOf r.colorScheme = r.syntaxes := by
  rw [syntaxesOf, ((c.mem_reports_iff host r).1 hr).1, Option.getD_some]

theorem Collects.exists_report {host : Host} {tests : List Text} {test content syntaxFile : Text}
    {header : Header} {theme : Theme} {view : View}
    (h : c.Collects (tests.map fun test => (host.runFixture test).value)) (mem : test ∈ tests)
    (renders : host.Renders test content header syntaxFile theme view) :
    ∃ r ∈ (c.reports host).value, r.colorScheme = header.schemePath ∧
      syntaxFile ∈ r.syntaxes.toList := by
  have run := List.mem_map_of_mem (f := fun test => (host.runFixture test).value) mem
  have contained : c.tested.contains header.schemePath = true :=
    (h.names_iff _).2 ⟨_, run, syntaxFile, renders.renderedWith⟩
  obtain ⟨syntaxes, entry⟩ := (c.tested.contains_iff _).1 contained
  have reported : ⟨header.schemePath, syntaxes, extract theme, theme.isLegacy⟩ ∈ (c.reports host).value :=
    (c.mem_reports_iff host _).2 ⟨entry, theme, renders.theme_eq, rfl, rfl⟩
  refine ⟨_, reported, rfl, ?_⟩
  rw [← syntaxesOf_report reported, h.syntaxes_iff]
  exact ⟨_, run, renders.renderedWith⟩

/-- What reports have to tell of some tests: all that passed, and nothing of the others. -/
structure Covers (host : Host) (tests : List Text) (reports : List SchemeReport) : Prop where
  ascending : reports.Pairwise fun r r' => r.colorScheme < r'.colorScheme
  names_iff : ∀ name, (∃ r ∈ reports, r.colorScheme = name) ↔
    ∃ test ∈ tests, (host.runFixture test).value.status = .passed ∧
      (host.runFixture test).value.colorScheme = some name
  syntaxes_iff : ∀ r ∈ reports, ∀ file, file ∈ r.syntaxes.toList ↔
    ∃ test ∈ tests, (host.runFixture test).value.status = .passed ∧
      (host.runFixture test).value.colorScheme = some r.colorScheme ∧
      (host.runFixture test).value.syntaxFile = some file
  document : ∀ r ∈ reports, ∃ theme, r.info.Describes theme ∧ r.isLegacy = theme.isLegacy ∧
    ∀ test ∈ tests, (host.runFixture test).value.status = .passed →
      (host.runFixture test).value.colorScheme = some r.colorScheme →
      ∃ content header syntaxFile view, host.Renders test content header syntaxFile theme view

theorem Collects.covers {host : Host} {tests : List Text} {c : Coverage}
    (h : c.Collects (tests.map fun test => (host.runFixture test).value))
    (unfailed : ∀ test ∈ tests, (host.runFixture test).value.status ≠ .failed) :
    Covers host tests (c.reports host).value where
  ascending := c.reports_ascending host
  names_iff name := by
    constructor
    · rintro ⟨r, hr, rfl⟩
      obtain ⟨entry, -⟩ := (c.mem_reports_iff host r).1 hr
      obtain ⟨_, hrun, file, status, colorScheme, -⟩ :=
        (h.names_iff r.colorScheme).1 ((c.tested.contains_iff _).2 ⟨_, entry⟩)
      obtain ⟨test, mem, rfl⟩ := List.mem_map.1 hrun
      exact ⟨test, mem, status.resolve_right (unfailed test mem), colorScheme⟩
    · rintro ⟨test, mem, passed, colorScheme⟩
      obtain ⟨content, header, syntaxFile, theme, view, renders⟩ := Host.isRendered_of_status (.inl passed)
      cases colorScheme.symm.trans renders.renderedWith.2.1
      obtain ⟨r, hr, named, -⟩ := h.exists_report mem renders
      exact ⟨r, hr, named⟩
  syntaxes_iff r hr file := by
    rw [← syntaxesOf_report hr, h.syntaxes_iff]
    simp only [List.mem_map, exists_exists_and_eq_and]
    exact exists_congr fun test => and_congr_right fun mem =>
      FixtureRun.renderedWith_iff_passed (unfailed test mem)
  document r hr := by
    obtain ⟨-, theme, loaded, info, isLegacy⟩ := (c.mem_reports_iff host r).1 hr
    refine ⟨theme, info ▸ describes_extract theme, isLegacy, fun test _ passed colorScheme => ?_⟩
    obtain ⟨content, header, syntaxFile, theme', view, renders⟩ := Host.isRendered_of_status (.inl passed)
    -- The host has not changed since, so the scheme loads as it did for the test.
    have same : header.schemePath = r.colorScheme :=
      Option.some.inj (renders.renderedWith.2.1.symm.trans colorScheme)
    cases loaded.symm.trans (same ▸ renders.theme_eq)
    exact ⟨content, header, syntaxFile, view, renders⟩

end Coverage
end SchemeCheck
