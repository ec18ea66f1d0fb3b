import SchemeCheck.Fixture.Render
import SchemeCheck.Theme.Resolver
set_option autoImplicit false

namespace SchemeCheck

inductive Status where
  | passed
  | failed
  | error
  | skipped
  deriving DecidableEq

structure Notice where
  message : Text
  file : Text
  row : Nat
  column : Nat
  deriving DecidableEq

/-- A column whose style is not the stated one; rows and columns count from one. -/
structure Failure where
  assertion : Text
  file : Text
  row : Nat
  column : Nat
  actual : Expectation
  expected : Expectation
  deriving DecidableEq

structure FixtureRun where
  status : Status
  assertionCount : Nat
  failures : List Failure
  notice : Option Notice
  colorScheme : Option Text
  syntaxFile : Option Text
  deriving DecidableEq

def checks (build : Nat) (assertions : List Assertion) : List (Assertion × Nat) :=
  (assertions.filter (·.appliesTo build)).flatMap fun a =>
    (List.range' a.colBegin (a.colEnd - a.colBegin)).map fun column => (a, column)

/-- The stated attributes as a style has them, in lower case. -/
def Expectation.actual (expected : Expectation) (style : Style) : Expectation :=
  expected.withValues fun a => Text.lower (style.getD a.key)

def failure? (file : Text) (a : Assertion) (column : Nat) (style : Style) : Option Failure :=
  let actual := a.expected.actual style
  if actual = a.expected then none
  else
    some
      { assertion := a.rawText
        file
        row := a.row + 1
        column := column + 1
        actual
        expected := a.expected }

def failuresFrom (view : View) (score : Scorer) (file : Text) (r : Resolver) :
    List (Assertion × Nat) → List Failure
  | [] => []
  | (a, column) :: rest =>
    let answer := r.atPoint view score (view.textPoint a.row column)
    (failure? file a column answer.style).toList ++ failuresFrom view score file answer.next rest

namespace FixtureRun

def stopped (file : Text) (e : FixtureError) : FixtureRun where
  status := .error
  assertionCount := 0
  failures := []
  notice := some ⟨e.message, file, 0, 0⟩
  colorScheme := none
  syntaxFile := none

def leftOut (file : Text) (header : Header) (syntaxName : Text) (e : FixtureError) : FixtureRun where
  status := .skipped
  assertionCount := 0
  failures := []
  notice := some ⟨e.message, file, 0, 0⟩
  colorScheme := some header.schemePath
  syntaxFile := some syntaxName

def evaluate (host : Host) (file syntaxFile : Text) (header : Header) (content : Text) (view : View)
    (theme : Theme) : FixtureRun :=
  let columns := checks host.build (Assertion.ofDocument content)
  let failures := failuresFrom view host.score file (Resolver.new theme) columns
  { status := if failures = [] then .passed else .failed
    assertionCount := columns.length
    failures
    notice := none
    colorScheme := some header.schemePath
    syntaxFile := some syntaxFile }

end FixtureRun

def Changing.runFixture (test : Text) : Changing FixtureRun := do
  let file := (← now).fileName test
  match ← load test with
  | .error e => pure (.stopped file (.resource e))
  | .ok content =>
    match Header.read? content with
    | none => pure (.stopped file .invalidHeader)
    | some header =>
      match ← resolveSyntax (header.syntaxFor test) with
      | .error (.syntaxNotFound name) =>
        if header.skipIfMissing then
          pure (.leftOut file header (header.syntaxFor test) (.syntaxNotFound name))
        else pure (.stopped file (.syntaxNotFound name))
      | .error e => pure (.stopped file e)
      | .ok syntaxFile =>
        match ← withRendered header syntaxFile content
            fun host => FixtureRun.evaluate host file syntaxFile header content with
        | .error e => pure (.stopped file e)
        | .ok run => pure run

def Host.runFixture (host : Host) (test : Text) : Traced FixtureRun :=
  (Changing.runFixture test).on (.always host)

end SchemeCheck
