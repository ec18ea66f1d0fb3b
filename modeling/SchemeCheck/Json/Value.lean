import SchemeCheck.Text.Basic
set_option autoImplicit false

/-!
JSON values as far as a color scheme needs them: a number only tells whether binary64 can hold it,
and a string is absent where it has half of a surrogate pair. What is skipped may have both flaws
and any depth; `isSound` and `depth` serve to refuse them elsewhere.
-/

namespace SchemeCheck

inductive Json where
  | null
  | bool (b : Bool)
  | number (inRange : Bool)
  | string (t : Option Text)
  | array (items : List Json)
  | object (members : List (Option Text × Json))

namespace Json

mutual

/-- No number out of range and no broken string, as a key either. -/
def isSound : Json → Bool
  | null => true
  | bool _ => true
  | number inRange => inRange
  | string t => t.isSome
  | array items => areSound items
  | object members => membersAreSound members

def areSound : List Json → Bool
  | [] => true
  | j :: js => isSound j && areSound js

def membersAreSound : List (Option Text × Json) → Bool
  | [] => true
  | (key, j) :: rest => key.isSome && isSound j && membersAreSound rest

end

mutual

def depth : Json → Nat
  | array items => depthOfAll items + 1
  | object members => depthOfMembers members + 1
  | _ => 0

def depthOfAll : List Json → Nat
  | [] => 0
  | j :: js => max (depth j) (depthOfAll js)

def depthOfMembers : List (Option Text × Json) → Nat
  | [] => 0
  | (_, j) :: rest => max (depth j) (depthOfMembers rest)

end

end Json
end SchemeCheck
