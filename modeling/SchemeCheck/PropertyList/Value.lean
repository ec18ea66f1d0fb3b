import SchemeCheck.Dict
set_option autoImplicit false

/-!
Property lists as far as a color scheme needs them, built from the events that both written forms
consist of. A key of a dictionary is whatever value comes first of two.
-/

namespace SchemeCheck

inductive PropertyList where
  | string (t : Text)
  | unsigned (n : Nat)
  | other
  | array (items : List PropertyList)
  | dictionary (entries : List (PropertyList × PropertyList))

namespace PropertyList

inductive Event where
  | openArray
  | openDictionary
  | close
  | scalar (v : PropertyList)

mutual

/-- The value that some events begin with; each call takes an event, so their number bounds the
recursion. -/
def build? : (fuel : Nat) → List Event → Option (PropertyList × List Event)
  | 0, _ => none
  | _, [] => none
  | fuel + 1, e :: es =>
    match e with
    | .scalar v => some (v, es)
    | .openArray => (buildItems? fuel es).map fun (items, rest) => (array items, rest)
    | .openDictionary => (buildEntries? fuel es).map fun (entries, rest) => (dictionary entries, rest)
    | .close => none

def buildItems? : (fuel : Nat) → List Event → Option (List PropertyList × List Event)
  | 0, _ => none
  | _, .close :: es => some ([], es)
  | fuel + 1, es =>
    match build? fuel es with
    | none => none
    | some (item, rest) => (buildItems? fuel rest).map fun (items, rest) => (item :: items, rest)

def buildEntries? :
    (fuel : Nat) → List Event → Option (List (PropertyList × PropertyList) × List Event)
  | 0, _ => none
  | _, .close :: es => some ([], es)
  | fuel + 1, es =>
    match build? fuel es with
    | none => none
    | some (key, rest) =>
      match build? fuel rest with
      | none => none
      | some (value, rest) =>
        (buildEntries? fuel rest).map fun (entries, rest) => ((key, value) :: entries, rest)

end

def ofEvents? (es : List Event) : Option PropertyList :=
  match build? (2 * es.length + 1) es with
  | some (v, []) => some v
  | _ => none

mutual

def hasStringKeys : PropertyList → Bool
  | array items => allHaveStringKeys items
  | dictionary entries => entriesHaveStringKeys entries
  | _ => true

def allHaveStringKeys : List PropertyList → Bool
  | [] => true
  | v :: vs => hasStringKeys v && allHaveStringKeys vs

def entriesHaveStringKeys : List (PropertyList × PropertyList) → Bool
  | [] => true
  | (string _, v) :: rest => hasStringKeys v && entriesHaveStringKeys rest
  | _ :: _ => false

end

end PropertyList
end SchemeCheck
