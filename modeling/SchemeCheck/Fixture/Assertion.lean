import SchemeCheck.Fixture.AssertionLine
set_option autoImplicit false

/-!
The assertions of a document. Assertion lines that follow each other all speak about the nearest line
before them that is not an assertion line.
-/

namespace SchemeCheck

inductive Attribute where
  | foreground
  | background
  | fontStyle
  deriving DecidableEq

def Attribute.key : Attribute → Text
  | foreground => "foreground".toList
  | background => "background".toList
  | fontStyle => "fontStyle".toList

def Attribute.all : List Attribute := [.foreground, .background, .fontStyle]

structure Expectation where
  foreground : Option Text
  background : Option Text
  fontStyle : Option Text
  deriving DecidableEq

namespace Expectation

def get? (e : Expectation) : Attribute → Option Text
  | .foreground => e.foreground
  | .background => e.background
  | .fontStyle => e.fontStyle

def withValues (e : Expectation) (value : Attribute → Text) : Expectation where
  foreground := e.foreground.map fun _ => value .foreground
  background := e.background.map fun _ => value .background
  fontStyle := e.fontStyle.map fun _ => value .fontStyle

theorem get?_withValues (e : Expectation) (value : Attribute → Text) (a : Attribute) :
    (e.withValues value).get? a = (e.get? a).map fun _ => value a := by
  cases a <;> rfl

def entries (e : Expectation) : List (Attribute × Text) :=
  Attribute.all.filterMap fun a => (e.get? a).map fun v => (a, v)

def render (e : Expectation) : Text :=
  '{' :: ", ".toList.intercalate
    (e.entries.map fun (a, v) => '\x27' :: a.key ++ "': '".toList ++ v ++ ['\x27']) ++ ['}']

end Expectation

/-- What a fixture states about the columns from `colBegin` up to `colEnd` of `row`. -/
structure Assertion where
  row : Nat
  colBegin : Nat
  colEnd : Nat
  expected : Expectation
  rawText : Text
  minBuild : Option Nat
  deriving DecidableEq

namespace Assertion

def appliesTo (a : Assertion) (build : Nat) : Bool := a.minBuild.all (· ≤ build)

/-- An assertion line about `row`; the columns are those of the first caret of the line as it
stands in the document and of the carets counted in its normal form. -/
def ofLine? (row : Nat) (line : Text) (parsed : AssertionLine) : Option Assertion :=
  (line.findIdx? (· == '^')).map fun column =>
    { row
      colBegin := column
      colEnd := column + parsed.carets
      expected := ⟨parsed.foreground, parsed.background, parsed.fontStyle⟩
      rawText := parsed.text
      minBuild := parsed.minBuild }

/-- The assertions of `lines`, the first of which has index `index` and follows the line with index
`subject`, the nearest that is not an assertion line, if any is. -/
def ofLinesFrom (index : Nat) (subject : Option Nat) : List Text → List Assertion
  | [] => []
  | line :: lines =>
    match AssertionLine.read? line with
    | none => ofLinesFrom (index + 1) (some index) lines
    | some parsed =>
      (subject.bind fun row => ofLine? row line parsed).toList ++ ofLinesFrom (index + 1) subject lines

def ofDocument (content : Text) : List Assertion := ofLinesFrom 0 none (Text.lines content)

end Assertion
end SchemeCheck
