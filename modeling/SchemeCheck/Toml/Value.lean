import SchemeCheck.Text.Basic
set_option autoImplicit false

/-!
TOML values, and putting them into tables. What a header or a dotted key may still add to depends on
how a table came about, so tables keep that; no key is ever given a second value.
-/

namespace SchemeCheck

/-- How a table that is not a value came about: by its own header, on the way to another header, or on
the way of a dotted key. -/
inductive TomlOrigin where
  | header
  | path
  | dotted
  deriving DecidableEq

inductive Toml where
  | string (t : Text)
  | integer (n : Int)
  | real (t : Text)
  | bool (b : Bool)
  | time (t : Text)
  | array (items : List Toml)
  /-- A table in braces, to which nothing can be added. -/
  | inline (entries : List (Text × Toml))
  | table (origin : TomlOrigin) (entries : List (Text × Toml))
  /-- The tables of repeated headers; only the last one can grow. -/
  | tables (before : List (List (Text × Toml))) (last : List (Text × Toml))

abbrev TomlEntries := List (Text × Toml)

namespace Toml

def replace (key : Text) (value : Toml) (entries : TomlEntries) : TomlEntries :=
  entries.map fun e => if e.1 = key then (key, value) else e

/-- The entries with a value at the end of a dotted key. The tables on the way must have come about on
a way, and the last of them on the way of a dotted key. -/
def put? : (path : List Text) → (key : Text) → (value : Toml) → TomlEntries → Option TomlEntries
  | [], key, value, entries =>
    if (entries.lookup key).isSome then none else some (entries ++ [(key, value)])
  | k :: path, key, value, entries =>
    match entries.lookup k with
    | none => (put? path key value []).map fun inner => entries ++ [(k, table .dotted inner)]
    | some (table .dotted inner) =>
      (put? path key value inner).map fun inner => replace k (table .dotted inner) entries
    | some (table .path inner) =>
      if path = [] then none
      else (put? path key value inner).map fun inner => replace k (table .path inner) entries
    | some (tables before last) =>
      if path = [] then none
      else (put? path key value last).map fun last => replace k (tables before last) entries
    | _ => none

/-- The entries with the one at the end of a header's path changed by `f`, which is told what stands
there. Tables missing on the way come about. -/
def alter? (f : Option Toml → Option Toml) : (path : List Text) → TomlEntries → Option TomlEntries
  | [], _ => none
  | [key], entries =>
    match entries.lookup key with
    | none => (f none).map fun value => entries ++ [(key, value)]
    | some old => (f (some old)).map fun value => replace key value entries
  | k :: path, entries =>
    match entries.lookup k with
    | none => (alter? f path []).map fun inner => entries ++ [(k, table .path inner)]
    | some (table origin inner) =>
      (alter? f path inner).map fun inner => replace k (table origin inner) entries
    | some (tables before last) =>
      (alter? f path last).map fun last => replace k (tables before last) entries
    | _ => none

/-- A table by its header, which may have come about on the way to another one. -/
def openTable? : Option Toml → Option Toml
  | none => some (table .header [])
  | some (table .path entries) => some (table .header entries)
  | _ => none

def openNext? : Option Toml → Option Toml
  | none => some (tables [] [])
  | some (tables before last) => some (tables (before ++ [last]) [])
  | _ => none

def putInto? (path : List Text) (key : Text) (value : Toml) : Option Toml → Option Toml
  | some (table origin entries) => (put? path key value entries).map (table origin)
  | some (tables before last) => (put? path key value last).map (tables before)
  | _ => none

end Toml
end SchemeCheck
