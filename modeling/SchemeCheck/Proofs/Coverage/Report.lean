import SchemeCheck.Proofs.Coverage.Missing
import SchemeCheck.Proofs.Number.Decimal
import SchemeCheck.Proofs.Suite.Progress
import SchemeCheck.Proofs.Text.Lines
set_option autoImplicit false

/-!
The numbers of a coverage report, as they are read from its text: the counts in the rows of the table,
the number of notices that is announced, and the items on the numbered lines below it. What is counted
and what is listed make up the minimal sets.
-/

namespace SchemeCheck

namespace Text

end Text

namespace Coverage
open Text

/-! ## Rows -/

def countsOf? (row : Text) : Option (Nat × Nat) :=
  match (words row).reverse with
  | _ :: _ :: scopes :: _ :: _ :: syntaxes :: _ =>
    (Decimal.read? syntaxes).bind fun a => (Decimal.read? scopes).map fun b => (a, b)
  | _ => none

def enumeratedItem? (line : Text) : Option Text :=
  (after? "   ".toList line).bind fun entry =>
    if entry.head?.any Char.isDigit then some ((entry.dropWhile (· != ' ')).drop 1) else none

def enumerated (t : Text) : List Text := (lines t).filterMap enumeratedItem?

def announced? (block : Text) : Option Nat :=
  ((after? "\n   There is ".toList block).or (after? "\n   There are ".toList block)).bind fun rest =>
    Decimal.read? (rest.takeWhile Char.isDigit)

/-- What a block lists: of the syntaxes those of a report on a single file are left out. -/
def listed (singleFile : Bool) (r : SchemeReport) : List Text :=
  (if singleFile then [] else r.missingSyntaxes) ++ r.missingScopes

/-- What a report tells of one color scheme: its row of the table, and what follows its name. -/
structure SchemeText where
  row : Text
  name : Text
  notices : Text
  rest : Text

/-- The counts and lists agree with each other and with the minimal sets. -/
structure SchemeText.Tells (singleFile : Bool) (r : SchemeReport) (t : SchemeText) : Prop where
  name_eq : t.name = r.colorScheme
  row_name : startsWith r.colorScheme t.row = true
  counts : ∃ syntaxes scopes, countsOf? t.row = some (syntaxes, scopes) ∧
    scopes + ((enumerated t.notices).filter minimalScopes.contains).length = minimalScopes.length ∧
    (singleFile = false →
      syntaxes + ((enumerated t.notices).filter minimalSyntaxes.contains).length = minimalSyntaxes.length)
  announced : t.notices ≠ [] → announced? t.notices = some (enumerated t.notices).length
  absent_iff : t.notices = [] ↔ (singleFile = false → ∀ item ∈ minimalSyntaxes, item ∈ r.syntaxes.toList) ∧
    ∀ item ∈ minimalScopes, item ∈ r.info.scopes.toList
  mem_iff : ∀ item, item ∈ enumerated t.notices ↔
    singleFile = false ∧ item ∈ minimalSyntaxes ∧ item ∉ r.syntaxes.toList ∨
      item ∈ minimalScopes ∧ item ∉ r.info.scopes.toList
  single : singleFile = true → ∀ item ∈ enumerated t.notices, item ∉ minimalSyntaxes
  nodup : (enumerated t.notices).Nodup
  ascending : ((enumerated t.notices).filter minimalSyntaxes.contains).Pairwise (· < ·) ∧
    ((enumerated t.notices).filter minimalScopes.contains).Pairwise (· < ·)

def schemeText (singleFile : Bool) (width : Nat) (r : SchemeReport) : SchemeText where
  row := reportRow width r
  name := r.colorScheme
  notices := noticeBlock singleFile r
  rest := '\n' :: statistics r ++ ['\n']

end Coverage
end SchemeCheck
