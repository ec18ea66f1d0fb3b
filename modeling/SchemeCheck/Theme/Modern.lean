import SchemeCheck.Json.Reader
import SchemeCheck.Theme.Basic
set_option autoImplicit false

/-!
Modern color schemes as JSON documents: an object, or an array that gives name, globals, variables
and rules by position. Members that a scheme does not know are skipped whatever they hold.
-/

namespace SchemeCheck.ModernTheme

/-- A document nests at most this deep outside of what is skipped. -/
def maxDepth : Nat := 127

structure Parts where
  name : Option Json
  globals : Option Json
  vars : Option Json
  rules : Option Json

/-- The value of a known member, if it stands at most once and has no flaw. -/
def member? (members : List (Option Text × Json)) (key : Text) : Option (Option Json) :=
  match members.filter (·.1 = some key) with
  | [] => some none
  | [(_, j)] => if j.isSound ∧ j.depth < maxDepth then some (some j) else none
  | _ => none

def Parts.ofJson? : Json → Option Parts
  | .object members =>
    if members.all (·.1.isSome) then do
      let name ← member? members "name".toList
      let globals ← member? members "globals".toList
      let vars ← member? members "variables".toList
      let rules ← member? members "rules".toList
      some { name, globals, vars, rules }
    else none
  | .array items =>
    if items.length ≤ 4 ∧ items.all (fun j => j.isSound ∧ j.depth < maxDepth) then
      some { name := items[0]?, globals := items[1]?, vars := items[2]?, rules := items[3]? }
    else none
  | _ => none

def strings (members : List (Option Text × Json)) : Style :=
  members.foldl
    (fun style m =>
      match m with
      | (some key, .string (some value)) => style.insert key value
      | (some key, _) => style.erase key
      | _ => style)
    Dict.empty

def name? : Option Json → Option (Option Text)
  | none => some none
  | some .null => some none
  | some (.string t) => some t
  | some _ => none

def style? : Option Json → Option Style
  | none => some Dict.empty
  | some (.object members) => some (strings members)
  | some _ => none

/-- The scope is the selector, and the name is no attribute. -/
def rule? : Json → Option Rule
  | .object members =>
    let style := strings members
    some { selector := style.get? "scope".toList
           style := (style.erase "scope".toList).erase "name".toList }
  | _ => none

def rules? : Option Json → Option (List Rule)
  | none => some []
  | some (.array items) => items.mapM rule?
  | some _ => none

def read? (content : Text) : Option ModernTheme := do
  let parts ← Parts.ofJson? (← Json.read? content)
  let name ← name? parts.name
  let globals ← style? parts.globals
  let vars ← style? parts.vars
  let rules ← rules? parts.rules
  some { name, globals, vars, rules }

end SchemeCheck.ModernTheme
