import SchemeCheck.Coverage.Collect
import SchemeCheck.Suite.Discover
import SchemeCheck.Suite.Progress
set_option autoImplicit false

namespace SchemeCheck

def version : Text := "1.9.0".toList

structure RunOptions where
  debug : Bool
  coverage : Bool
  /-- Whether the report ends with a line that other tools wait for. -/
  unittesting : Bool

def Suite.header (host : Host) (suite : Suite) : Text :=
  "ColorSchemeUnit ".toList ++ version ++ "\n\nRuntime: ".toList ++ host.platform ++
    " build ".toList ++ Text.ofNat host.build ++ "\nPackage: ".toList ++ suite.package ++ ['\n'] ++
    (match suite.file with
      | some file => "File:    ".toList ++ file ++ ['\n']
      | none => []) ++
    ['\n']

structure SuiteState where
  progress : Progress
  coverage : Coverage
  summary : Summary
  output : Text

namespace SuiteState

def testText (p : Progress) (test : Text) (run : FixtureRun) : Text × Progress :=
  match run.status with
  | .passed =>
    let (text, next) := p.success
    (p.testStart test run.colorScheme run.syntaxFile ++ text, next)
  | .failed =>
    let (text, next) := p.failure
    (p.testStart test run.colorScheme run.syntaxFile ++ text, next)
  | .error => p.error
  | .skipped => p.skipped test run.colorScheme run.syntaxFile

def tested (c : Coverage) (run : FixtureRun) : Coverage :=
  match run.status, run.colorScheme, run.syntaxFile with
  | .passed, some colorScheme, some syntaxFile => c.record colorScheme syntaxFile
  | .failed, some colorScheme, some syntaxFile => c.record colorScheme syntaxFile
  | _, _, _ => c

def record (s : SuiteState) (test : Text) (run : FixtureRun) : SuiteState :=
  let (text, progress) := testText s.progress test run
  { progress := progress.testEnd
    coverage := tested s.coverage run
    summary := s.summary.record run
    output := s.output ++ text }

end SuiteState

def Suite.begin (host : Host) (suite : Suite) (options : RunOptions) : SuiteState where
  progress := ((Progress.new options.debug).start suite.tests).2
  coverage := Coverage.new options.coverage suite.file.isSome
  summary := Summary.empty
  output := suite.header host ++ ((Progress.new options.debug).start suite.tests).1

/-- A finished run. Only the time it took is missing from its report. -/
structure SuiteRun where
  summary : Summary
  report : (elapsed : Nat) → Text

def verdict (s : Summary) : Text :=
  (if s.isSuccess then "\nOK.\n".toList else "\nFAILED.\n".toList) ++ "\nUnitTesting: Done.\n".toList

namespace Changing

def runAll : SuiteState → List Text → Changing SuiteState
  | s, [] => pure s
  | s, test :: tests => do runAll (s.record test (← runFixture test)) tests

def covered (s : SuiteState) : Changing Text :=
  if s.summary.isSuccess then finish s.coverage else pure []

def runSuite (suite : Suite) (options : RunOptions) : Changing SuiteRun := do
  let last ← runAll (suite.begin (← now) options) suite.tests
  let coverage ← covered last
  pure
    { summary := last.summary
      report := fun elapsed =>
        last.output ++ last.progress.finish last.summary elapsed ++ coverage ++
          if options.unittesting then verdict last.summary else [] }

end Changing

def Suite.run (host : Host) (suite : Suite) (options : RunOptions) : Traced SuiteRun :=
  (Changing.runSuite suite options).on (.always host)

end SchemeCheck
