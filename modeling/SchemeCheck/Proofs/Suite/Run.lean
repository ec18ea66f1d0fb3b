import Mathlib.Algebra.GroupWithZero.Nat
import SchemeCheck.Proofs.Fixture.Outcome
import SchemeCheck.Proofs.Suite.Progress
import SchemeCheck.Suite.Run
set_option autoImplicit false

/-!
A run of a suite and its report. What is counted and collected while the tests run stays in step, so
the summary and the report tell the same of the tests, and every verdict on them is the same.
-/

namespace SchemeCheck

/-- A run has failures just if it failed, and a notice just if it was stopped or left out. -/
structure FixtureRun.Consistent (run : FixtureRun) : Prop where
  failures_iff : run.failures ≠ [] ↔ run.status = .failed
  notice_iff : run.notice.isSome = true ↔ run.status = .error ∨ run.status = .skipped

theorem Host.consistent_runFixture (host : Host) (test : Text) :
    (host.runFixture test).value.Consistent := by
  rcases host.stops_or_leavesOut_or_renders test with ⟨e, stops⟩ | ⟨_, _, leavesOut⟩ | ⟨_, _, _, _, _, renders⟩
  · rw [runFixture_of_stops stops]
    exact ⟨by simp [FixtureRun.stopped], by simp [FixtureRun.stopped]⟩
  · rw [leavesOut.value_runFixture]
    exact ⟨by simp [FixtureRun.leftOut], by simp [FixtureRun.leftOut]⟩
  · rw [renders.value_runFixture, FixtureRun.evaluate]
    refine ⟨?_, ?_⟩
    · dsimp only
      split <;> simp_all
    · dsimp only
      split <;> simp

namespace Summary

/-- The summary of some runs: their number, their sums, and what they collect. -/
structure Collects (runs : List FixtureRun) (s : Summary) : Prop where
  tests_eq : s.tests = runs.length
  assertions_eq : s.assertions = (runs.map (·.assertionCount)).sum
  failures_eq : s.failures = runs.flatMap (·.failures)
  errors_eq : s.errors.map some = (runs.filter (·.status = .error)).map (·.notice)
  skipped_eq : s.skipped.map some = (runs.filter (·.status = .skipped)).map (·.notice)

theorem collects_empty : empty.Collects [] := ⟨rfl, rfl, rfl, rfl, rfl⟩

theorem map_notices {run : FixtureRun} {status : Status}
    (h : run.status = status → run.notice.isSome = true) :
    (if run.status = status then run.notice.toList else []).map some =
      ([run].filter (·.status = status)).map (·.notice) := by
  by_cases same : run.status = status
  · obtain ⟨notice, hnotice⟩ := Option.isSome_iff_exists.1 (h same)
    simp [same, hnotice]
  · simp [same]

theorem Collects.record {runs : List FixtureRun} {s : Summary} {run : FixtureRun}
    (h : s.Collects runs) (consistent : run.Consistent) :
    (s.record run).Collects (runs ++ [run]) where
  tests_eq := by rw [Summary.record, h.tests_eq, List.length_append, List.length_singleton]
  assertions_eq := by simp [Summary.record, h.assertions_eq]
  failures_eq := by simp [Summary.record, h.failures_eq]
  errors_eq := by
    rw [Summary.record, List.map_append, h.errors_eq, List.filter_append, List.map_append,
      map_notices fun same => consistent.notice_iff.2 (.inl same)]
  skipped_eq := by
    rw [Summary.record, List.map_append, h.skipped_eq, List.filter_append, List.map_append,
      map_notices fun same => consistent.notice_iff.2 (.inr same)]

theorem Collects.isSuccess_iff {runs : List FixtureRun} {s : Summary} (h : s.Collects runs)
    (consistent : ∀ run ∈ runs, run.Consistent) :
    s.isSuccess = true ↔ ∀ run ∈ runs, run.status ≠ .error ∧ run.status ≠ .failed := by
  have errors : s.errors = [] ↔ ∀ run ∈ runs, run.status ≠ .error := by
    rw [← List.map_eq_nil_iff (f := some), h.errors_eq]
    simp [List.filter_eq_nil_iff]
  have failures : s.failures = [] ↔ ∀ run ∈ runs, run.status ≠ .failed := by
    rw [h.failures_eq, List.flatMap_eq_nil_iff]
    exact forall₂_congr fun run hrun =>
      Classical.not_not.symm.trans (not_congr (consistent run hrun).failures_iff)
  rw [isSuccess, Bool.and_eq_true, List.isEmpty_iff, List.isEmpty_iff, errors, failures]
  exact ⟨fun ⟨e, f⟩ run hrun => ⟨e run hrun, f run hrun⟩,
    fun all => ⟨fun run hrun => (all run hrun).1, fun run hrun => (all run hrun).2⟩⟩

end Summary

namespace SuiteState
open Progress (wrapped)

theorem testText_quiet {p : Progress} (quiet : p.debug = false) (test : Text) (run : FixtureRun) :
    testText p test run = p.mark run.status.mark := by
  rw [testText]
  cases run.status with
  | passed => simp [Progress.testStart, Progress.success, Status.mark, quiet]
  | failed => simp [Progress.testStart, Progress.failure, Status.mark, quiet]
  | error => rfl
  | skipped => simp [Progress.skipped, Status.mark, quiet]

/-- After some runs the text has a mark for each, both counters count them, and the summary collects
them. -/
structure Tells (opening : Text) (total : Nat) (runs : List FixtureRun) (s : SuiteState) : Prop where
  quiet : s.progress.debug = false
  total_eq : s.progress.total = total
  marks_eq : s.progress.marks = runs.length
  finished_eq : s.progress.finished = runs.length
  output_eq : s.output = opening ++ wrapped total (runs.map (·.status.mark))
  collects : s.summary.Collects runs

variable {opening : Text} {total : Nat} {runs : List FixtureRun} {s : SuiteState}

theorem Tells.record (h : Tells opening total runs s) (test : Text) {run : FixtureRun}
    (consistent : run.Consistent) : Tells opening total (runs ++ [run]) (s.record test run) := by
  rw [SuiteState.record, testText_quiet h.quiet, Progress.mark_eq]
  exact {
    quiet := h.quiet
    total_eq := h.total_eq
    marks_eq := by simp [Progress.testEnd, h.marks_eq]
    finished_eq := by simp [Progress.testEnd, h.finished_eq]
    output_eq := by
      rw [List.map_append, List.map_singleton, Progress.wrapped_concat, List.length_map, h.output_eq,
        h.total_eq, h.marks_eq]
      exact List.append_assoc ..
    collects := h.collects.record consistent }

theorem Tells.runAll (h : Tells opening total runs s) (host : Host) (tests : List Text) :
    Tells opening total (runs ++ tests.map fun test => (host.runFixture test).value)
      ((Changing.runAll s tests).on (.always host)).value := by
  induction tests generalizing runs s with
  | nil => rwa [List.map_nil, List.append_nil]
  | cons test tests ih =>
    rw [List.map_cons, List.append_cons]
    exact ih (h.record test (host.consistent_runFixture test))

end SuiteState

namespace Progress

def noticeEntry (n : Text) (item : Notice) : Text :=
  n ++ ") ".toList ++ item.message ++ "\n\n".toList ++ place item.file item.row item.column ++
    "\n\n".toList

def failureEntry (n : Text) (item : Failure) : Text :=
  n ++ ") ".toList ++ item.assertion ++ "\nFailed asserting ".toList ++ item.actual.render ++
    " equals ".toList ++ item.expected.render ++ '\n' :: place item.file item.row item.column ++
    "\n\n".toList

/-- A block with all items, each once and numbered from one on; none without items. -/
structure Lists {α : Type} (follows : Bool) (noun : Text) (entry : Text → α → Text) (items : List α)
    (text : Text) : Prop where
  absent : items = [] → text = []
  listed : items ≠ [] → ∃ body, Enumerates entry 1 items body ∧
    text = (if follows then "--\n\n".toList else []) ++ blockTitle items.length noun ++ body

theorem notices_eq (items : List Notice) : notices items = numbered noticeEntry items := rfl

theorem failures_eq (items : List Failure) : failures items = numbered failureEntry items := rfl

theorem lists_block {α : Type} (follows : Bool) (noun : Text) (entry : Text → α → Text)
    (items : List α) :
    Lists follows noun entry items (block follows items.length noun (numbered entry items)) where
  absent := by rintro rfl; rfl
  listed ne := by
    have some : items.length ≠ 0 := mt List.length_eq_zero_iff.1 ne
    exact ⟨_, enumerates_numbered entry items, by rw [block, if_neg some]⟩

end Progress

structure ReportParts where
  header : Text
  progress : Text
  time : Text
  errors : Text
  failures : Text
  skipped : Text
  totals : Text
  coverage : Text
  trailer : Text

namespace ReportParts
open Progress (Lists wrapped withoutCounters noticeEntry failureEntry)

def text (p : ReportParts) : Text :=
  p.header ++ p.progress ++ p.time ++ p.errors ++ p.failures ++ p.skipped ++ p.totals ++
    p.coverage ++ p.trailer

structure Tell (runs : List FixtureRun) (s : Summary) (unittesting : Bool) (p : ReportParts) :
    Prop where
  /-- A mark for each run, in order, and a counter after each whose number eighty divides. -/
  progress_eq : p.progress = wrapped runs.length (runs.map (·.status.mark))
  marks_eq : withoutCounters p.progress = runs.map (·.status.mark)
  errors : Lists false "error".toList noticeEntry s.errors p.errors
  failures : Lists (!s.errors.isEmpty) "failure".toList failureEntry s.failures p.failures
  skipped : Lists (!s.isSuccess) "skipped test".toList noticeEntry s.skipped p.skipped
  passed_totals : s.isSuccess = true → ∃ rest, p.totals = "OK (".toList ++
    (Text.ofNat runs.length ++ " tests, ".toList ++ Text.ofNat s.assertions ++
      " assertions".toList ++ rest)
  failed_totals : s.isSuccess = false → ∃ rest, p.totals = "FAILURES!".toList ++
    ("\nTests: ".toList ++ Text.ofNat runs.length ++ ", Assertions: ".toList ++
      Text.ofNat s.assertions ++ rest)
  coverage : s.isSuccess = false → p.coverage = []
  trailer : p.trailer = if unittesting then
    (if s.isSuccess then "\nOK.\n".toList else "\nFAILED.\n".toList) ++
      "\nUnitTesting: Done.\n".toList else []
  marks_verdict : 'E' ∉ p.progress ∧ 'F' ∉ p.progress ↔ s.isSuccess = true
  passed_verdict : Text.startsWith "OK (".toList p.totals = true ↔ s.isSuccess = true
  failed_verdict : Text.startsWith "FAILURES!".toList p.totals = true ↔ s.isSuccess = false
  trailer_verdict : unittesting = true →
    (Text.startsWith "\nOK.".toList p.trailer = true ↔ s.isSuccess = true)

end ReportParts

def Suite.last (host : Host) (suite : Suite) (options : RunOptions) : SuiteState :=
  ((Changing.runAll (suite.begin host options) suite.tests).on (.always host)).value

def SuiteState.covered (host : Host) (s : SuiteState) : Text :=
  ((Changing.covered s).on (.always host)).value

theorem SuiteState.covered_eq (host : Host) (s : SuiteState) :
    s.covered host = if s.summary.isSuccess then (s.coverage.finish host).value else [] := by
  rw [covered, Changing.covered]
  cases s.summary.isSuccess <;> rfl

theorem Suite.value_run (host : Host) (suite : Suite) (options : RunOptions) :
    let last := suite.last host options
    (suite.run host options).value =
      { summary := last.summary
        report := fun elapsed =>
          last.output ++ last.progress.finish last.summary elapsed ++ last.covered host ++
            if options.unittesting then verdict last.summary else [] } := rfl

namespace Progress
variable {p : Progress} {s : Summary}

theorem totals_of_success (h : s.isSuccess = true) :
    ∃ rest, p.totals s = "OK (".toList ++ (Text.ofNat p.finished ++ " tests, ".toList ++
      Text.ofNat s.assertions ++ " assertions".toList ++ rest) := by
  rw [totals, if_pos h]
  simp only [List.append_assoc]
  exact ⟨_, rfl⟩

theorem totals_of_failure (h : s.isSuccess = false) :
    ∃ rest, p.totals s = "FAILURES!".toList ++ ("\nTests: ".toList ++ Text.ofNat p.finished ++
      ", Assertions: ".toList ++ Text.ofNat s.assertions ++ rest) := by
  rw [totals, if_neg (by simp [h])]
  simp only [List.append_assoc]
  exact ⟨_, rfl⟩

theorem passed_verdict (p : Progress) (s : Summary) :
    Text.startsWith "OK (".toList (p.totals s) = true ↔ s.isSuccess = true := by
  cases h : s.isSuccess with
  | true =>
    obtain ⟨rest, totals⟩ := totals_of_success (p := p) h
    rw [totals, Text.startsWith_append]
  | false =>
    obtain ⟨rest, totals⟩ := totals_of_failure (p := p) h
    rw [totals]
    exact ⟨fun other => absurd other (by simp [Text.startsWith, Text.after?]), nofun⟩

theorem failed_verdict (p : Progress) (s : Summary) :
    Text.startsWith "FAILURES!".toList (p.totals s) = true ↔ s.isSuccess = false := by
  cases h : s.isSuccess with
  | true =>
    obtain ⟨rest, totals⟩ := totals_of_success (p := p) h
    rw [totals]
    exact ⟨fun other => absurd other (by simp [Text.startsWith, Text.after?]), nofun⟩
  | false =>
    obtain ⟨rest, totals⟩ := totals_of_failure (p := p) h
    rw [totals, Text.startsWith_append]
    exact iff_of_true rfl rfl

end Progress

theorem trailer_verdict (s : Summary) :
    Text.startsWith "\nOK.".toList (verdict s) = true ↔ s.isSuccess = true := by
  rw [verdict]
  cases s.isSuccess <;> decide

theorem FixtureRun.mark_mem_iff (runs : List FixtureRun) (status : Status) :
    status.mark ∈ runs.map (·.status.mark) ↔ ∃ run ∈ runs, run.status = status := by
  have injective : ∀ a b : Status, a.mark = b.mark → a = b := by
    intro a b
    cases a <;> cases b <;> decide
  rw [List.mem_map]
  exact ⟨fun ⟨run, hrun, same⟩ => ⟨run, hrun, injective _ _ same⟩,
    fun ⟨run, hrun, same⟩ => ⟨run, hrun, same ▸ rfl⟩⟩

theorem blank_not_mem_marks (runs : List FixtureRun) : ' ' ∉ runs.map (·.status.mark) := by
  rw [List.mem_map]
  rintro ⟨run, -, blank⟩
  cases hstatus : run.status <;> rw [hstatus] at blank <;> exact absurd blank (by decide)

theorem Summary.Collects.marks_verdict {runs : List FixtureRun} {s : Summary} (h : s.Collects runs)
    (consistent : ∀ run ∈ runs, run.Consistent) (total : Nat) :
    'E' ∉ Progress.wrapped total (runs.map (·.status.mark)) ∧
      'F' ∉ Progress.wrapped total (runs.map (·.status.mark)) ↔ s.isSuccess = true := by
  have stopped : 'E' ∈ runs.map (·.status.mark) ↔ ∃ run ∈ runs, run.status = .error :=
    FixtureRun.mark_mem_iff runs .error
  have failed : 'F' ∈ runs.map (·.status.mark) ↔ ∃ run ∈ runs, run.status = .failed :=
    FixtureRun.mark_mem_iff runs .failed
  rw [Progress.mem_wrapped rfl (by decide), Progress.mem_wrapped rfl (by decide), stopped, failed,
    h.isSuccess_iff consistent]
  grind

namespace SuiteState

def parts (s : SuiteState) (host : Host) (opening progress : Text) (elapsed : Nat)
    (unittesting : Bool) : ReportParts where
  header := opening
  progress := progress
  time := "\n\nTime: ".toList ++ Progress.seconds elapsed ++ " secs\n\n".toList
  errors := Progress.block false s.summary.errors.length "error".toList
    (Progress.numbered Progress.noticeEntry s.summary.errors)
  failures := Progress.block (!s.summary.errors.isEmpty) s.summary.failures.length "failure".toList
    (Progress.numbered Progress.failureEntry s.summary.failures)
  skipped := Progress.block (!s.summary.isSuccess) s.summary.skipped.length "skipped test".toList
    (Progress.numbered Progress.noticeEntry s.summary.skipped)
  totals := s.progress.totals s.summary
  coverage := s.covered host
  trailer := if unittesting then verdict s.summary else []

theorem text_parts (s : SuiteState) (host : Host) (opening progress : Text) (elapsed : Nat)
    (unittesting : Bool) :
    (s.parts host opening progress elapsed unittesting).text =
      opening ++ progress ++ s.progress.finish s.summary elapsed ++ s.covered host ++
        if unittesting then verdict s.summary else [] := by
  -- Not by rewriting: that compares the texts letter by letter.
  unfold ReportParts.text parts Progress.finish
  simp only [Progress.notices_eq, Progress.failures_eq, List.append_assoc]

theorem Tells.tell_parts {opening : Text} {runs : List FixtureRun} {s : SuiteState}
    (h : s.Tells opening runs.length runs) (consistent : ∀ run ∈ runs, run.Consistent) (host : Host)
    (elapsed : Nat) (unittesting : Bool) :
    (s.parts host opening (Progress.wrapped runs.length (runs.map (·.status.mark))) elapsed
      unittesting).Tell runs s.summary unittesting where
  progress_eq := rfl
  marks_eq := Progress.withoutCounters_wrapped _ (blank_not_mem_marks runs)
  errors := Progress.lists_block ..
  failures := Progress.lists_block ..
  skipped := Progress.lists_block ..
  passed_totals success := h.finished_eq ▸ Progress.totals_of_success success
  failed_totals failure := h.finished_eq ▸ Progress.totals_of_failure failure
  coverage failure := by
    rw [parts, covered_eq, failure]
    rfl
  trailer := rfl
  marks_verdict := h.collects.marks_verdict consistent _
  passed_verdict := s.progress.passed_verdict s.summary
  failed_verdict := s.progress.failed_verdict s.summary
  trailer_verdict := by
    rintro rfl
    exact trailer_verdict s.summary

end SuiteState

/-- The summary of a run and its report tell of the same tests, and all verdicts agree. -/
theorem Suite.run_tells (host : Host) (suite : Suite) (coverage unittesting : Bool) (elapsed : Nat) :
    let runs := suite.tests.map fun test => (host.runFixture test).value
    let run := (suite.run host { debug := false, coverage, unittesting }).value
    run.summary.Collects runs ∧
      ∃ parts : ReportParts, run.report elapsed = parts.text ∧ parts.header = suite.header host ∧
        parts.time = "\n\nTime: ".toList ++ Progress.seconds elapsed ++ " secs\n\n".toList ∧
        parts.Tell runs run.summary unittesting := by
  intro runs run
  have consistent : ∀ r ∈ runs, r.Consistent := by
    intro r hr
    obtain ⟨test, -, rfl⟩ := List.mem_map.1 hr
    exact host.consistent_runFixture test
  -- The total is the length of the suite from the first test on, so the invariant begins with it.
  have start : (suite.begin host { debug := false, coverage, unittesting }).Tells (suite.header host)
      suite.tests.length [] :=
    ⟨rfl, rfl, rfl, rfl, rfl, Summary.collects_empty⟩
  have tells := start.runAll host suite.tests
  rw [List.nil_append, ← List.length_map fun test => (host.runFixture test).value] at tells
  have value_run := suite.value_run host { debug := false, coverage, unittesting }
  rw [show run = _ from value_run]
  refine ⟨tells.collects, _, ?_, rfl, rfl, tells.tell_parts consistent host elapsed unittesting⟩
  rw [SuiteState.text_parts, ← tells.output_eq]
  rfl

end SchemeCheck
