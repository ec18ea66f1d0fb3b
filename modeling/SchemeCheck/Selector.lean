import SchemeCheck.Score
import SchemeCheck.Text.Blank
set_option autoImplicit false

/-!
Scopes, scope paths and selectors, and the score a selector gives a path. A selector lists
alternatives; each names scopes to be met along the path, outermost first, and paths that exclude a
match. A scope met deeper in the path counts eight times as much as one met a level above.
-/

namespace SchemeCheck

/-- The dotted atoms of a scope, outermost first. -/
abbrev Scope := List Text

namespace Scope

def maxAtoms : Nat := 8

/-- Dots at the end do not count; all other atoms do, empty ones too. -/
def ofText (t : Text) : Scope := Text.split (· == '.') (Text.dropEndWhile (· == '.') t)

def isValid (s : Scope) : Bool := s.length ≤ maxAtoms

def ofText? (t : Text) : Option Scope := if isValid (ofText t) then some (ofText t) else none

end Scope

abbrev ScopePath := List Scope

def ScopePath.ofText? (t : Text) : Option ScopePath := (Text.words t).mapM Scope.ofText?

namespace ScopePath

/-- The weight of meeting the scopes of a selector path one after the other, from `depth` on, added
to `sum`; none if some of them is not met. -/
def weightFrom? (depth sum : Nat) : (selector : ScopePath) → ScopePath → Option Nat
  | [], _ => some sum
  | _ :: _, [] => none
  | s :: rest, scope :: path =>
    if s.isPrefixOf scope then
      weightFrom? (depth + 1) (Binary64.roundNat (sum + s.length <<< (3 * depth))) rest path
    else weightFrom? (depth + 1) sum (s :: rest) path

def weight? (selector path : ScopePath) : Option Nat :=
  if selector = [] then none else weightFrom? 0 0 selector path

end ScopePath

structure SelectorAlternative where
  path : ScopePath
  exclusions : List ScopePath
  deriving DecidableEq

namespace SelectorAlternative

/-- What stands before the first space and minus is the path, every other piece an exclusion. -/
def ofText? (t : Text) : Option SelectorAlternative :=
  match Text.splitAround ' ' ['-'] t with
  | [] => none
  | path :: exclusions =>
    (ScopePath.ofText? path).bind fun path =>
      (exclusions.mapM ScopePath.ofText?).map fun exclusions => ⟨path, exclusions⟩

/-- An empty path matches everything with weight one, and an empty exclusion excludes everything. -/
def weight? (a : SelectorAlternative) (path : ScopePath) : Option Nat :=
  if a.exclusions.any fun e => e = [] || (e.weight? path).isSome then none
  else if a.path = [] then some 1
  else a.path.weight? path

end SelectorAlternative

abbrev Selector := List SelectorAlternative

namespace Selector

/-- Alternatives stand between commas or bars; one with an invalid scope makes all invalid. -/
def ofText? (t : Text) : Option Selector :=
  (Text.split (fun c => c == ',' || c == '|') t).mapM SelectorAlternative.ofText?

def weight (s : Selector) (path : ScopePath) : Nat :=
  (s.filterMap (·.weight? path)).foldl max 0

def weightOfTexts (path selector : Text) : Nat :=
  match ScopePath.ofText? path, ofText? selector with
  | some path, some selector => weight selector path
  | _, _ => 0

def score : Scorer := fun path selector => Score.ofNat (weightOfTexts path selector)

end Selector
end SchemeCheck
