import SchemeCheck.Fixture.Comment
import SchemeCheck.Number.Decimal
import SchemeCheck.Text.Blank
import SchemeCheck.Text.Case
set_option autoImplicit false

/-!
Assertion lines: a comment of carets followed by clauses. A clause states a foreground, a background,
a font style of one or more keywords, or the least build that evaluates the line. Of clauses of one
kind the first counts.
-/

namespace SchemeCheck

inductive Clause where
  | foreground (value : Text)
  | background (value : Text)
  | fontStyle (value : Text) (keywords : List Text)
  | minBuild (build : Nat)
  deriving DecidableEq

/-- An assertion line by itself; `text` is its normal form. -/
structure AssertionLine where
  carets : Nat
  foreground : Option Text
  background : Option Text
  fontStyle : Option Text
  minBuild : Option Nat
  text : Text
  deriving DecidableEq

namespace Clause

/-- A word without an equals sign belongs to the font style before it. -/
def isKeyword (word : Text) : Bool := !word.contains '='

def readAll? : List Text → Option (List Clause)
  | [] => some []
  | word :: words =>
    match Text.after? "fg=".toList word with
    | some value => (readAll? words).map (foreground value :: ·)
    | none =>
      match Text.after? "bg=".toList word with
      | some value => (readAll? words).map (background value :: ·)
      | none =>
        match Text.after? "fs=".toList word with
        | some value =>
          (readAll? (words.dropWhile isKeyword)).map (fontStyle value (words.takeWhile isKeyword) :: ·)
        | none =>
          match (Text.after? "build>=".toList word).bind (Decimal.readUpTo? Decimal.maxUnsigned32) with
          | some build => (readAll? words).map (minBuild build :: ·)
          | none => none
termination_by words => words.length
decreasing_by
  all_goals first
    | exact Nat.lt_succ_of_le (List.dropWhile_sublist _).length_le
    | simp

/-- An empty value states no color. -/
def foreground? : Clause → Option Text
  | foreground value => if value = [] then none else some value
  | _ => none

def background? : Clause → Option Text
  | background value => if value = [] then none else some value
  | _ => none

/-- An empty value states the empty font style, whatever keywords follow. -/
def fontStyle? : Clause → Option Text
  | fontStyle value keywords =>
    some (if value = [] then [] else [' '].intercalate (value :: keywords))
  | _ => none

def minBuild? : Clause → Option Nat
  | minBuild build => some build
  | _ => none

end Clause

namespace AssertionLine

/-- Lower case, without a closing comment token and the spaces around it. -/
def normalize (line : Text) : Text :=
  Text.dropEndWhile [' ', '*', '/'].contains
    (Text.dropEndWhile [' ', '-', '>'].contains (Text.lower line))

def readCarets? (t : Text) : Option (Nat × Text) :=
  match CommentOpener.read? (Text.trimStart t) with
  | none => none
  | some (_, rest) =>
    let carets := (Text.trimStart rest).takeWhile (· == '^')
    if carets = [] then none
    else some (carets.length, (Text.trimStart rest).dropWhile (· == '^'))

def ofClauses (text : Text) (carets : Nat) (clauses : List Clause) : AssertionLine where
  carets := carets
  foreground := clauses.findSome? Clause.foreground?
  background := clauses.findSome? Clause.background?
  fontStyle := clauses.findSome? Clause.fontStyle?
  minBuild := clauses.findSome? Clause.minBuild?
  text := text

/-- Any other word after the carets, and any character but a space right after them, makes the line
an ordinary comment. -/
def read? (line : Text) : Option AssertionLine :=
  let text := normalize line
  match readCarets? text with
  | none => none
  | some (carets, rest) =>
    if rest = [] ∨ rest.head? = some ' ' then
      (Clause.readAll? (Text.fields (· == ' ') rest)).map (ofClauses text carets)
    else none

end AssertionLine
end SchemeCheck
