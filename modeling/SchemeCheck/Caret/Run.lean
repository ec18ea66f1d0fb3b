import SchemeCheck.Fixture.Comment
import SchemeCheck.Text.Blank
set_option autoImplicit false

namespace SchemeCheck.Caret

structure StyleRun where
  start : Nat
  length : Nat
  style : Text
  deriving DecidableEq

def runsFrom (start : Nat) : List Text → List StyleRun
  | [] => []
  | style :: styles =>
    match runsFrom (start + 1) styles with
    | [] => [⟨start, 1, style⟩]
    | run :: runs =>
      if run.style = style then ⟨start, run.length + 1, style⟩ :: runs
      else ⟨start, 1, style⟩ :: run :: runs

def StyleRun.line (run : StyleRun) : Text :=
  Text.spaces run.start ++ List.replicate run.length '^' ++ ' ' :: run.style

/-- The line between comment markers, whose start takes the place of as many characters; none if no
caret or no style is left. -/
def StyleRun.comment? (opening closing : Text) (run : StyleRun) : Option Text :=
  let rest := run.line.drop opening.length
  if (rest.dropWhile (· == ' ')).head? = some '^' ∧ rest.any (fun c => c != ' ' && c != '^') then
    some (opening ++ rest ++ closing)
  else none

def assertionLines (styles : List Text) (opening closing : Text) : List Text :=
  (runsFrom 0 styles).filterMap (StyleRun.comment? opening closing)

def assertionText (styles : List Text) (opening closing : Text) : Text :=
  ['\n'].intercalate (assertionLines styles opening closing)

def markers : Option Text → Text × Text
  | none => ([], [])
  | some token =>
    let closing :=
      if Text.trimEnd token = CommentOpener.block.text then " */".toList
      else if Text.trimEnd token = CommentOpener.markup.text then " -->".toList
      else []
    (if token.getLast? = some ' ' then token else token ++ [' '], closing)

end SchemeCheck.Caret
