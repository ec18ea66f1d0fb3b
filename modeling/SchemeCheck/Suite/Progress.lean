import SchemeCheck.Number.Binary64
import SchemeCheck.Suite.Summary
set_option autoImplicit false

namespace SchemeCheck

def Text.line (t : Text) : Text := t ++ ['\n']

structure Progress where
  debug : Bool
  marks : Nat
  finished : Nat
  total : Nat
  deriving DecidableEq

namespace Progress

def new (debug : Bool) : Progress := ⟨debug, 0, 0, 0⟩

def width : Nat := 80

def numbered {α : Type} (render : (number : Text) → α → Text) (items : List α) : Text :=
  (items.zipIdx 1).flatMap fun (item, n) => render (Text.ofNat n) item

def start (p : Progress) (tests : List Text) : Text × Progress :=
  (if p.debug then
      "Starting ".toList ++ Text.ofNat tests.length ++ " test".toList ++
        (if 1 < tests.length then ['s'] else []) ++ ":\n\n".toList ++
        numbered (fun n test => Text.line (n ++ ") ".toList ++ test)) tests
    else [],
    { p with total := tests.length })

def testInfo (verb test : Text) (colorScheme syntaxFile : Option Text) : Text :=
  '\n' :: verb ++ " test '".toList ++ test ++ "'\n  color scheme: '".toList ++
    colorScheme.getD "None".toList ++ "'\n  syntax: '".toList ++ syntaxFile.getD "None".toList ++
    "'\n".toList

/-- How much of the run is done, in percent: the share is rounded once before and once after it is
taken times a hundred. -/
def percent (marks total : Nat) : Text :=
  if total = 0 then "0.0".toList
  else (((Fraction.toBinary64 ⟨marks, total⟩).scale 100).toBinary64).toFixed 1

def counter (marks total : Nat) : Text :=
  ' ' :: Text.ofNat marks ++ " / ".toList ++ Text.ofNat total ++ " (".toList ++
    percent marks total ++ "%)\n".toList

def mark (p : Progress) (c : Char) : Text × Progress :=
  let marks := p.marks + 1
  (c :: if marks % width = 0 then counter marks p.total else [], { p with marks })

def testStart (p : Progress) (test : Text) (colorScheme syntaxFile : Option Text) : Text :=
  if p.debug then testInfo "Starting".toList test colorScheme syntaxFile else []

def success (p : Progress) : Text × Progress := p.mark '.'

def failure (p : Progress) : Text × Progress := p.mark 'F'

def error (p : Progress) : Text × Progress := p.mark 'E'

def skipped (p : Progress) (test : Text) (colorScheme syntaxFile : Option Text) :
    Text × Progress :=
  let (text, next) := p.mark 'S'
  (text ++ if p.debug then testInfo "Skipping".toList test colorScheme syntaxFile else [], next)

def testEnd (p : Progress) : Progress := { p with finished := p.finished + 1 }

/-- Hundredths of a second from microseconds, as the sum of whole seconds and their rest. -/
def seconds (elapsed : Nat) : Text :=
  let rest := Fraction.toBinary64 ⟨elapsed % 1000000 * 1000, 1000000000⟩
  ((Fraction.add ⟨elapsed / 1000000, 1⟩ rest).toBinary64).toFixed 2

def blockTitle (count : Nat) (noun : Text) : Text :=
  "There ".toList ++ (if count = 1 then "was ".toList else "were ".toList) ++ Text.ofNat count ++
    ' ' :: noun ++ (if count = 1 then [] else ['s']) ++ ":\n\n".toList

def place (file : Text) (row column : Nat) : Text :=
  file ++ ':' :: Text.ofNat row ++ ':' :: Text.ofNat column

def notices (items : List Notice) : Text :=
  numbered
    (fun n item =>
      n ++ ") ".toList ++ item.message ++ "\n\n".toList ++ place item.file item.row item.column ++
        "\n\n".toList)
    items

def failures (items : List Failure) : Text :=
  numbered
    (fun n item =>
      n ++ ") ".toList ++ item.assertion ++ "\nFailed asserting ".toList ++ item.actual.render ++
        " equals ".toList ++ item.expected.render ++ '\n' :: place item.file item.row item.column ++
        "\n\n".toList)
    items

def block (follows : Bool) (count : Nat) (noun body : Text) : Text :=
  if count = 0 then []
  else (if follows then "--\n\n".toList else []) ++ blockTitle count noun ++ body

def tally (label : Text) (count : Nat) : Text :=
  if count = 0 then [] else label ++ Text.ofNat count

def totals (p : Progress) (s : Summary) : Text :=
  if s.isSuccess then
    "OK (".toList ++ Text.ofNat p.finished ++ " tests, ".toList ++ Text.ofNat s.assertions ++
      " assertions".toList ++
      (if s.skipped = [] then [] else ", ".toList ++ Text.ofNat s.skipped.length ++ " skipped".toList) ++
      ")\n".toList
  else
    "FAILURES!\nTests: ".toList ++ Text.ofNat p.finished ++ ", Assertions: ".toList ++
      Text.ofNat s.assertions ++ tally ", Errors: ".toList s.errors.length ++
      ", Failures: ".toList ++ Text.ofNat s.failures.length ++
      tally ", Skipped: ".toList s.skipped.length ++ ".\n".toList

def finish (p : Progress) (s : Summary) (elapsed : Nat) : Text :=
  "\n\nTime: ".toList ++ seconds elapsed ++ " secs\n\n".toList ++
    block false s.errors.length "error".toList (notices s.errors) ++
    block (!s.errors.isEmpty) s.failures.length "failure".toList (failures s.failures) ++
    block (!s.isSuccess) s.skipped.length "skipped test".toList (notices s.skipped) ++
    p.totals s

end Progress
end SchemeCheck
