import SchemeCheck.PropertyList.Bracketed
import SchemeCheck.PropertyList.Markup
import SchemeCheck.Theme.Basic
set_option autoImplicit false

namespace SchemeCheck.LegacyTheme

/-- A shorter text is no property list. -/
def minBytes : Nat := 8

def propertyList? (content : Text) : Option PropertyList :=
  if Text.byteLength content < minBytes then none
  else
    let unmarked := (Text.after? ['\uFEFF'] content).getD content
    if (Text.trimStart unmarked).head? = some '<' then PropertyList.Markup.read? unmarked
    else PropertyList.Bracketed.read? content

/-- The index of the known key that a key names or counts; every other key is skipped. -/
def keyIndex? (known : List Text) : PropertyList → Option Nat
  | .string t => some (known.findIdx (· == t))
  | .unsigned n => some n
  | _ => none

/-- The value of the known key with this index, which stands at most once. -/
def value? (known : List Text) (index : Nat) (entries : List (PropertyList × PropertyList)) :
    Option (Option PropertyList) :=
  match entries.filter (fun e => keyIndex? known e.1 = some index) with
  | [] => some none
  | [(_, v)] => some (some v)
  | _ => none

def string? : Option PropertyList → Option (Option Text)
  | none => some none
  | some (.string t) => some (some t)
  | some _ => none

def strings (entries : List (PropertyList × PropertyList)) : Style :=
  entries.foldl
    (fun style e =>
      match e with
      | (.string key, .string value) => style.insert key value
      | (.string key, _) => style.erase key
      | _ => style)
    Dict.empty

def style? : Option PropertyList → Option Style
  | none => some Dict.empty
  | some (.dictionary entries) =>
    if (PropertyList.dictionary entries).hasStringKeys then some (strings entries) else none
  | some _ => none

def ruleKeys : List Text := ["scope".toList, "settings".toList]

def rule? : PropertyList → Option Rule
  | .dictionary entries => do
    if entries.all (fun e => (keyIndex? ruleKeys e.1).isSome) then
      let selector ← string? (← value? ruleKeys 0 entries)
      let style ← style? (← value? ruleKeys 1 entries)
      some { selector, style }
    else none
  | _ => none

def themeKeys : List Text := ["name".toList, "settings".toList]

def read? (content : Text) : Option LegacyTheme :=
  match propertyList? content with
  | some (.dictionary entries) => do
    if entries.all (fun e => (keyIndex? themeKeys e.1).isSome) then
      let name ← string? (← value? themeKeys 0 entries)
      match ← value? themeKeys 1 entries with
      | some (.array items) => some { name, rules := ← items.mapM rule? }
      | _ => none
    else none
  | _ => none

end SchemeCheck.LegacyTheme
