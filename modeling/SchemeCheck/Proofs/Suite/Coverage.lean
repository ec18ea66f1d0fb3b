import SchemeCheck.Proofs.Caret.RoundTrip
import SchemeCheck.Proofs.Coverage.Collect
import SchemeCheck.Proofs.Suite.Run
set_option autoImplicit false

namespace SchemeCheck

namespace SuiteState

structure Gathers (singleFile : Bool) (runs : List FixtureRun) (s : SuiteState) : Prop where
  enabled : s.coverage.enabled = true
  singleFile_eq : s.coverage.singleFile = singleFile
  summary : s.summary.Collects runs
  coverage : s.coverage.Collects runs

theorem Gathers.record {singleFile : Bool} {runs : List FixtureRun} {s : SuiteState}
    (h : s.Gathers singleFile runs) (test : Text) {run : FixtureRun} (consistent : run.Consistent) :
    (s.record test run).Gathers singleFile (runs ++ [run]) where
  enabled := (Coverage.enabled_singleFile_tested s.coverage run).1.trans h.enabled
  singleFile_eq := (Coverage.enabled_singleFile_tested s.coverage run).2.trans h.singleFile_eq
  summary := h.summary.record consistent
  coverage := h.coverage.tested h.enabled run

theorem Gathers.runAll {singleFile : Bool} {runs : List FixtureRun} {s : SuiteState}
    (h : s.Gathers singleFile runs) (host : Host) (tests : List Text) :
    ((Changing.runAll s tests).on (.always host)).value.Gathers singleFile
      (runs ++ tests.map fun test => (host.runFixture test).value) := by
  induction tests generalizing runs s with
  | nil => rwa [List.map_nil, List.append_nil]
  | cons test tests ih =>
    rw [List.map_cons, List.append_cons]
    exact ih (h.record test (host.consistent_runFixture test))

structure SameText (s plain : SuiteState) : Prop where
  progress : s.progress = plain.progress
  summary : s.summary = plain.summary
  output : s.output = plain.output
  disabled : plain.coverage.enabled = false

theorem SameText.record {s plain : SuiteState} (h : SameText s plain) (test : Text)
    (run : FixtureRun) : SameText (s.record test run) (plain.record test run) := by
  have disabled := (Coverage.enabled_singleFile_tested plain.coverage run).1.trans h.disabled
  simp only [SuiteState.record, h.progress, h.summary, h.output]
  exact ⟨rfl, rfl, rfl, disabled⟩

theorem SameText.runAll {s plain : SuiteState} (h : SameText s plain) (host : Host)
    (tests : List Text) :
    SameText ((Changing.runAll s tests).on (.always host)).value
      ((Changing.runAll plain tests).on (.always host)).value := by
  induction tests generalizing s plain with
  | nil => exact h
  | cons test tests ih => exact ih (h.record test _)

theorem covered_of_disabled (host : Host) {s : SuiteState} (h : s.coverage.enabled = false) :
    s.covered host = [] := by
  rw [covered_eq, Coverage.finish, Changing.finish, h]
  cases s.summary.isSuccess <;> rfl

end SuiteState

namespace Suite

def reports (host : Host) (suite : Suite) (debug : Bool) : List Coverage.SchemeReport :=
  ((suite.last host { debug, coverage := true, unittesting := false }).coverage.reports host).value

/-- The report of a run with coverage is that of the run without, this text, and the line for other
tools. -/
def AddsCoverage (host : Host) (suite : Suite) (debug unittesting : Bool) (text : Text) : Prop :=
  ∀ elapsed,
    let run := (suite.run host { debug, coverage := true, unittesting }).value
    run.report elapsed =
      (suite.run host { debug, coverage := false, unittesting := false }).value.report elapsed ++ text ++
        if unittesting then verdict run.summary else []

variable (host : Host) (suite : Suite) (debug unittesting : Bool)

theorem gathers_last : (suite.last host { debug, coverage := true, unittesting }).Gathers
    suite.file.isSome (suite.tests.map fun test => (host.runFixture test).value) := by
  have start : (suite.begin host { debug, coverage := true, unittesting }).Gathers
      suite.file.isSome [] :=
    ⟨rfl, rfl, Summary.collects_empty, Coverage.collects_new suite.file.isSome⟩
  exact start.runAll host suite.tests

theorem isSuccess_iff :
    (suite.run host { debug, coverage := true, unittesting }).value.summary.isSuccess = true ↔
      ∀ test ∈ suite.tests, (host.runFixture test).value.status ≠ .error ∧
        (host.runFixture test).value.status ≠ .failed := by
  rw [suite.value_run]
  refine ((suite.gathers_last host debug unittesting).summary.isSuccess_iff ?_).trans
    List.forall_mem_map
  exact List.forall_mem_map.2 fun test _ => host.consistent_runFixture test

theorem addsCoverage_covered : suite.AddsCoverage host debug unittesting
    ((suite.last host { debug, coverage := true, unittesting }).covered host) := by
  intro elapsed
  have start : (suite.begin host { debug, coverage := true, unittesting }).SameText
      (suite.begin host { debug, coverage := false, unittesting := false }) := ⟨rfl, rfl, rfl, rfl⟩
  have same : (suite.last host { debug, coverage := true, unittesting }).SameText
      (suite.last host { debug, coverage := false, unittesting := false }) :=
    start.runAll host suite.tests
  simp only [suite.value_run, same.progress, same.summary, same.output,
    SuiteState.covered_of_disabled host same.disabled, Bool.false_eq_true, if_false, List.append_nil]

variable {host suite}

theorem nothing_tested_iff :
    (suite.last host { debug, coverage := true, unittesting }).coverage.tested.entries = [] ↔
      ∀ test ∈ suite.tests, ¬ host.IsRendered test := by
  have collects := (suite.gathers_last host debug unittesting).coverage
  simp only [Dict.entries_eq_nil_iff, collects.names_iff, ← Host.exists_renderedWith_iff,
    List.mem_map, exists_exists_and_eq_and, not_exists, not_and]
  exact ⟨fun none test mem name file => none name test mem file,
    fun none name test mem file => none test mem name file⟩

theorem addsCoverage_reports (unfailed : ∀ test ∈ suite.tests,
      (host.runFixture test).value.status ≠ .error ∧ (host.runFixture test).value.status ≠ .failed)
    (rendered : ∃ test ∈ suite.tests, host.IsRendered test) :
    suite.AddsCoverage host debug unittesting
      (Coverage.report suite.file.isSome (suite.reports host debug)) := by
  have success := (suite.isSuccess_iff host debug unittesting).2 unfailed
  have gathers := suite.gathers_last host debug unittesting
  have tested := mt (nothing_tested_iff debug unittesting).1 (by simpa using rendered)
  have covered := suite.addsCoverage_covered host debug unittesting
  rw [suite.value_run] at success
  rw [SuiteState.covered_eq, if_pos success, Coverage.value_finish _ host gathers.enabled,
    if_neg tested, gathers.singleFile_eq] at covered
  exact covered

theorem addsCoverage_nothing
    (h : (suite.run host { debug, coverage := true, unittesting }).value.summary.isSuccess = false ∨
      ∀ test ∈ suite.tests, ¬ host.IsRendered test) :
    suite.AddsCoverage host debug unittesting [] := by
  have gathers := suite.gathers_last host debug unittesting
  have none : (suite.last host { debug, coverage := true, unittesting }).covered host = [] := by
    rw [SuiteState.covered_eq]
    split
    · next success =>
      have unrendered := h.resolve_left (by rw [suite.value_run, success]; simp)
      rw [Coverage.value_finish _ host gathers.enabled,
        if_pos ((nothing_tested_iff debug unittesting).2 unrendered)]
    · rfl
  exact none ▸ suite.addsCoverage_covered host debug unittesting

theorem reports_congr {tests : List Text}
    (same : ∀ test, (host.runFixture test).value.status ≠ .skipped →
      (test ∈ tests ↔ test ∈ suite.tests)) :
    ({ suite with tests } : Suite).reports host debug = suite.reports host debug := by
  have gathers := suite.gathers_last host debug false
  have gathers' := ({ suite with tests } : Suite).gathers_last host debug false
  have tested := gathers'.coverage.tested_eq gathers.coverage fun name file => by
    simp only [List.mem_map, exists_exists_and_eq_and]
    exact exists_congr fun test => and_congr_left fun rendered => same test rendered.not_skipped
  rw [reports, reports, Coverage.reports, Coverage.reports, tested]

end Suite

/-- A run that went well and rendered something reports just the color schemes of its passed tests, in
ascending order and with the documents they were rendered with, whatever the order of the tests and
without regard to those left out. Every other run writes nothing of coverage. -/
theorem Suite.coverage_of_run (host : Host) (suite : Suite) (debug unittesting : Bool) :
    let status := fun test => (host.runFixture test).value.status
    let run := (suite.run host { debug, coverage := true, unittesting }).value
    (run.summary.isSuccess = true ↔
      ∀ test ∈ suite.tests, status test ≠ .error ∧ status test ≠ .failed) ∧
    (run.summary.isSuccess = true → (∃ test ∈ suite.tests, host.IsRendered test) →
      ∃ reports, Coverage.Covers host suite.tests reports ∧
        ∀ tests, tests.Perm suite.tests ∨
            tests.Perm (suite.tests.filter fun test => status test ≠ .skipped) →
          ({ suite with tests } : Suite).reports host debug = reports ∧
          ({ suite with tests } : Suite).AddsCoverage host debug unittesting
            (Coverage.report suite.file.isSome reports)) ∧
    (run.summary.isSuccess = false ∨ (∀ test ∈ suite.tests, ¬ host.IsRendered test) →
      suite.AddsCoverage host debug unittesting []) := by
  intro status run
  have success_iff := suite.isSuccess_iff host debug unittesting
  refine ⟨success_iff, fun success rendered => ?_, addsCoverage_nothing debug unittesting⟩
  have unfailed := success_iff.1 success
  refine ⟨suite.reports host debug, (suite.gathers_last host debug false).coverage.covers
    fun test mem => (unfailed test mem).2, fun tests order => ?_⟩
  have subset : ∀ test ∈ tests, test ∈ suite.tests := by
    intro test mem
    rcases order with perm | perm
    · exact perm.mem_iff.1 mem
    · exact (List.mem_filter.1 (perm.mem_iff.1 mem)).1
  have same : ∀ test, status test ≠ .skipped → (test ∈ tests ↔ test ∈ suite.tests) := by
    intro test kept
    refine ⟨subset test, fun mem => ?_⟩
    rcases order with perm | perm
    · exact perm.mem_iff.2 mem
    · exact perm.mem_iff.2 (List.mem_filter.2 ⟨mem, by simpa using kept⟩)
  have equal := reports_congr debug same
  refine ⟨equal, equal ▸ addsCoverage_reports debug unittesting
    (fun test mem => unfailed test (subset test mem)) ?_⟩
  obtain ⟨test, mem, content, header, syntaxFile, theme, view, renders⟩ := rendered
  exact ⟨test, (same test renders.renderedWith.not_skipped).2 mem, content, header, syntaxFile, theme,
    view, renders⟩

namespace Sample

def otherScheme : Text := "b.hidden-color-scheme".toList

/-- Fixtures in two color schemes; `a` is tested with two syntaxes, and `u` asks for a missing one. -/
def mixed : MemoryHost :=
  { memory [] with
    files := Dict.ofList [
      (['t'], checked),
      (['u'], "// COLOR SCHEME TEST \"a.hidden-color-scheme\" SKIP IF NOT \"Z\"".toList),
      (['v'], "// COLOR SCHEME TEST \"b.hidden-color-scheme\" \"X\"".toList),
      (['w'], "// COLOR SCHEME TEST \"a.hidden-color-scheme\" \"Y\"".toList),
      (syntaxFile, []), ("Y.sublime-syntax".toList, []), (scheme, schemeText), (otherScheme, schemeText)] }

def mixedSuite : Suite := ⟨['p'], [['w'], ['t'], ['u'], ['v']], none⟩

theorem status_mixed : mixedSuite.tests.map (fun test => (mixed.toHost.runFixture test).value.status) =
    [.passed, .passed, .skipped, .passed] := by decide +kernel

end Sample

theorem Suite.coverage_of_run_sample :
    let host := Sample.mixed.toHost
    let reports := Sample.mixedSuite.reports host false
    Sample.mixedSuite.tests.map (fun test => (host.runFixture test).value.status) =
        [.passed, .passed, .skipped, .passed] ∧
      reports.map (fun r => (r.colorScheme, r.syntaxes.toList)) =
        [(Sample.scheme, [Sample.syntaxFile, "Y.sublime-syntax".toList]),
          (Sample.otherScheme, [Sample.syntaxFile])] ∧
      Sample.mixedSuite.AddsCoverage host false true (Coverage.report false reports) ∧
      ({ Sample.mixedSuite with tests := [['v'], ['t'], ['w']] } : Suite).AddsCoverage host false true
        (Coverage.report false reports) := by
  intro host reports
  obtain ⟨success_iff, adds, -⟩ := Suite.coverage_of_run host Sample.mixedSuite false true
  have unfailed : ∀ status ∈ Sample.mixedSuite.tests.map (fun test => (host.runFixture test).value.status),
      status ≠ .error ∧ status ≠ .failed := by
    rw [Sample.status_mixed]
    decide
  have first : (host.runFixture ['w']).value.status = .passed := (List.cons.inj Sample.status_mixed).1
  obtain ⟨covered, -, every⟩ := adds (success_iff.2 (List.forall_mem_map.1 unfailed))
    ⟨['w'], List.mem_cons_self, Host.isRendered_of_status (.inl first)⟩
  have kept : Sample.mixedSuite.tests.filter (fun test => (host.runFixture test).value.status ≠ .skipped) =
      [['w'], ['t'], ['v']] := by decide +kernel
  obtain ⟨equal, text⟩ := every Sample.mixedSuite.tests (.inl (.refl _))
  obtain ⟨-, text'⟩ := every [['v'], ['t'], ['w']] (.inr (kept ▸ by decide))
  have same : reports = covered := equal
  exact ⟨Sample.status_mixed, by decide +kernel, same ▸ text, same ▸ text'⟩

end SchemeCheck
