import SchemeCheck.Text.Basic
set_option autoImplicit false

/-!
Patterns for the names of files. A star stands for any text, a question mark for any character, and
brackets for one character in or outside some ranges; two stars that are all of a path component stand
for any number of components. No part of a pattern treats a slash apart.
-/

namespace SchemeCheck

def Text.suffixes : Text → List Text
  | [] => [[]]
  | c :: t => (c :: t) :: suffixes t

/-- What follows each slash, and the empty end. -/
def Text.belowSlashes : Text → List Text
  | [] => [[]]
  | c :: t => if c = '/' then t :: belowSlashes t else belowSlashes t

namespace Glob

/-- A part of a pattern; ranges hold both their ends. -/
inductive Token where
  | char (c : Char)
  | anyChar
  | oneOf (ranges : List (Char × Char))
  | noneOf (ranges : List (Char × Char))
  | anyText
  | anyComponents
  deriving DecidableEq

/-- The ranges between brackets. A minus is a range only between two characters. -/
def ranges : Text → List (Char × Char)
  | a :: '-' :: b :: t => (a, b) :: ranges t
  | a :: t => (a, a) :: ranges t
  | [] => []

def readClass? (t : Text) : Option (Text × Text) :=
  match t.dropWhile (· != ']') with
  | [] => none
  | _ :: rest => some (t.takeWhile (· != ']'), rest)

theorem length_readClass? {t inside rest : Text} (h : readClass? t = some (inside, rest)) :
    rest.length < t.length := by
  rw [readClass?] at h
  split at h
  · simp at h
  · next hd =>
    obtain ⟨_, rfl⟩ := by simpa using h
    have := (List.dropWhile_sublist (l := t) (· != ']')).length_le
    rw [hd] at this
    simp at this
    omega

/-- The tokens of a pattern, if it is one. A bracket may close only after a first character, and
two stars must start at a component, which `atComponent` tells, and be followed by a slash or the
end. -/
def readTokens? (atComponent : Bool) : Text → Option (List Token)
  | [] => some []
  | '?' :: t => (readTokens? false t).map (.anyChar :: ·)
  | '*' :: '*' :: [] => if atComponent then some [.anyComponents] else none
  | '*' :: '*' :: '/' :: t =>
    if atComponent then (readTokens? true t).map (.anyComponents :: ·) else none
  | '*' :: '*' :: _ => none
  | '*' :: t => (readTokens? false t).map (.anyText :: ·)
  | '[' :: '!' :: a :: t =>
    match _ : readClass? t with
    | none => none
    | some (inside, rest) => (readTokens? false rest).map (.noneOf (ranges (a :: inside)) :: ·)
  | '[' :: '!' :: [] => none
  | '[' :: a :: t =>
    match _ : readClass? t with
    | none => none
    | some (inside, rest) => (readTokens? false rest).map (.oneOf (ranges (a :: inside)) :: ·)
  | '[' :: [] => none
  | c :: t => (readTokens? (c == '/') t).map (.char c :: ·)
termination_by t => t.length
decreasing_by
  all_goals simp only [List.length_cons]
  all_goals first
    | omega
    | exact Nat.lt_of_lt_of_le (length_readClass? ‹_›) (by omega)

def inRanges (c : Char) (ranges : List (Char × Char)) : Bool :=
  ranges.any fun (low, high) => low ≤ c && c ≤ high

def Token.accepts (c : Char) : Token → Bool
  | char d => d == c
  | anyChar => true
  | oneOf ranges => inRanges c ranges
  | noneOf ranges => !inRanges c ranges
  | anyText => false
  | anyComponents => false

def accepts : List Token → Text → Bool
  | [], name => name.isEmpty
  | .anyText :: tokens, name => (Text.suffixes name).any (accepts tokens)
  | .anyComponents :: tokens, name => (name :: Text.belowSlashes name).any (accepts tokens)
  | token :: tokens, name =>
    match name with
    | [] => false
    | c :: name => token.accepts c && accepts tokens name

/-- Whether a name has the form of a pattern. A text that is no pattern stands for itself. -/
def isMatch (pattern name : Text) : Bool :=
  match readTokens? true pattern with
  | some tokens => accepts tokens name
  | none => pattern = name

end Glob
end SchemeCheck
