import SchemeCheck.Regex.CharTable
import SchemeCheck.Text.Blank
set_option autoImplicit false

/-!
Regular expressions with numbered groups, and matching by backtracking: of several ways to match, the
one that prefers the first branch and the more eager repetition counts.
-/

namespace SchemeCheck

inductive CharSet where
  | none
  | range (low high : Char)
  | digit
  | hexDigit
  | word
  | blank
  | union (a b : CharSet)
  | complement (a : CharSet)
  deriving DecidableEq

namespace CharSet

def only (c : Char) : CharSet := range c c

def isWord (c : Char) : Bool := CharTable.covers c.toNat CharTable.wordCharacters

def contains (c : Char) : CharSet → Bool
  | none => false
  | range low high => low ≤ c && c ≤ high
  | digit => CharTable.covers c.toNat CharTable.decimalDigits
  | hexDigit => c.isDigit || ('a' ≤ c && c ≤ 'f') || ('A' ≤ c && c ≤ 'F')
  | word => isWord c
  | blank => isBlank c
  | union a b => contains c a || contains c b
  | complement a => !contains c a

end CharSet

inductive Anchor where
  | lineStart
  | lineEnd
  | wordEdge
  | noWordEdge
  | wordStart
  | wordEnd
  deriving DecidableEq

inductive Regex where
  | empty
  | char (set : CharSet)
  | anchor (a : Anchor)
  | seq (a b : Regex)
  | alt (a b : Regex)
  | times (least : Nat) (most : Option Nat) (eager : Bool) (a : Regex)
  | group (index : Nat) (a : Regex)
  deriving DecidableEq

structure Cursor where
  offset : Nat
  before : Option Char
  rest : Text
  deriving DecidableEq

namespace Cursor

def start (line : Text) : Cursor := ⟨0, none, line⟩

def next? (c : Cursor) : Option Cursor :=
  match c.rest with
  | [] => none
  | a :: rest => some ⟨c.offset + a.utf8Size, some a, rest⟩

def followsWord (c : Cursor) : Bool := c.before.any CharSet.isWord

def precedesWord (c : Cursor) : Bool := c.rest.head?.any CharSet.isWord

end Cursor

def Anchor.holds (c : Cursor) : Anchor → Bool
  | lineStart => c.before.isNone
  | lineEnd => c.rest.head?.all (· == '\n')
  | wordEdge => c.followsWord != c.precedesWord
  | noWordEdge => c.followsWord == c.precedesWord
  | wordStart => !c.followsWord && c.precedesWord
  | wordEnd => c.followsWord && !c.precedesWord

/-- A group and the offsets between which it matched, of each group the last match first. -/
abbrev Groups := List (Nat × Nat × Nat)

namespace Regex

def anyChar : Regex := char (.complement (.only '\n'))

abbrev Outcome := Option (Cursor × Groups)

/-- One after the other of as many repetitions as wanted. Beyond `least` an empty repetition ends a
branch, so `fuel` need not exceed `least` and the characters left by more than one. -/
def repeatFrom (step : Cursor → Groups → (Cursor → Groups → Outcome) → Outcome) (least : Nat)
    (most : Option Nat) (eager : Bool) (k : Cursor → Groups → Outcome) :
    (fuel done : Nat) → Cursor → Groups → Outcome
  | 0, _, c, g => k c g
  | fuel + 1, done, c, g =>
    if done < least then step c g (repeatFrom step least most eager k fuel (done + 1))
    else if most = some done then k c g
    else
      let again (_ : Unit) : Outcome :=
        step c g fun c' g' =>
          if c'.offset = c.offset then none
          else repeatFrom step least most eager k fuel (done + 1) c' g'
      if eager then
        match again () with
        | some m => some m
        | none => k c g
      else
        match k c g with
        | some m => some m
        | none => again ()

/-- Matches from a position on and continues with `k`. -/
def run : Regex → Cursor → Groups → (Cursor → Groups → Outcome) → Outcome
  | empty, c, g, k => k c g
  | char set, c, g, k =>
    match c.rest, c.next? with
    | a :: _, some next => if set.contains a then k next g else none
    | _, _ => none
  | anchor a, c, g, k => if a.holds c then k c g else none
  | seq a b, c, g, k => run a c g fun c g => run b c g k
  | alt a b, c, g, k =>
    match run a c g k with
    | some m => some m
    | none => run b c g k
  | times least most eager a, c, g, k =>
    repeatFrom (run a) least most eager k (least + c.rest.length + 1) 0 c g
  | group index a, c, g, k => run a c g fun c' g' => k c' ((index, c.offset, c'.offset) :: g')

end Regex

/-- Where a regular expression matched; group zero is all of it. -/
structure RegexMatch where
  first : Nat
  last : Cursor
  groups : Groups
  deriving DecidableEq

namespace RegexMatch

def isEmpty (m : RegexMatch) : Bool := m.last.offset == m.first

def group? (m : RegexMatch) (index : Nat) : Option (Nat × Nat) :=
  if index = 0 then some (m.first, m.last.offset) else m.groups.lookup index

end RegexMatch

namespace Regex

def matchAt? (r : Regex) (c : Cursor) : Option RegexMatch :=
  (run r c [] fun c g => some (c, g)).map fun (last, groups) => ⟨c.offset, last, groups⟩

def searchIn? (r : Regex) (offset : Nat) (before : Option Char) : Text → Option RegexMatch
  | [] => matchAt? r ⟨offset, before, []⟩
  | a :: rest =>
    match matchAt? r ⟨offset, before, a :: rest⟩ with
    | some m => some m
    | none => searchIn? r (offset + a.utf8Size) (some a) rest

def search? (r : Regex) (c : Cursor) : Option RegexMatch := searchIn? r c.offset c.before c.rest

end Regex
end SchemeCheck
