import SchemeCheck.Coverage.Extract
import SchemeCheck.Error
import SchemeCheck.Suite.Progress
set_option autoImplicit false

namespace SchemeCheck.Coverage

structure SchemeReport where
  colorScheme : Text
  syntaxes : TextSet
  info : SchemeInfo
  isLegacy : Bool
  deriving DecidableEq

namespace SchemeReport

def coveredSyntaxes (r : SchemeReport) : Nat :=
  (r.syntaxes.toList.filter minimalSyntaxes.contains).length

def coveredScopes (r : SchemeReport) : Nat :=
  (r.info.scopes.toList.filter minimalScopes.contains).length

def missingSyntaxes (r : SchemeReport) : List Text := minimalSyntaxes.filter (!r.syntaxes.contains ·)

def missingScopes (r : SchemeReport) : List Text := minimalScopes.filter (!r.info.scopes.contains ·)

end SchemeReport

def tableRow (width : Nat) (name syntaxes scopes : Text) : Text :=
  Text.line
    (Text.padEnd width name ++ ' ' :: Text.padStart 20 syntaxes ++ ' ' :: Text.padStart 20 scopes)

def ratio (covered total : Nat) : Text := Text.ofNat covered ++ " / ".toList ++ Text.ofNat total

def reportRow (width : Nat) (r : SchemeReport) : Text :=
  tableRow width r.colorScheme (ratio r.coveredSyntaxes minimalSyntaxes.length)
    (ratio r.coveredScopes minimalScopes.length)

def nameWidth (reports : List SchemeReport) : Nat :=
  (reports.map (·.colorScheme.length)).foldl max 0

def table (reports : List SchemeReport) : Text :=
  let width := nameWidth reports
  tableRow width "Name".toList "Minimal syntaxes".toList "Minimal scopes".toList ++
    Text.line (List.replicate (width + 42) '-') ++ reports.flatMap (reportRow width)

def missingList (items : List Text) : Text :=
  Progress.numbered
    (fun n item =>
      Text.line ("   ".toList ++ n ++ '/' :: Text.ofNat items.length ++ ": ".toList ++ item))
    items

def missingSyntaxBlock (items : List Text) : Text :=
  if items = [] then []
  else
    ("\n   The following is a recommended minimal set of syntaxes that should be tested.\n\n").toList ++
      missingList items

def missingScopeBlock (items : List Text) : Text :=
  if items = [] then []
  else
    ("\n   The following is a recommended minimal set of scopes that your color scheme should " ++
      "support.\n   See https://www.sublimetext.com/docs/scope_naming.html" ++ "#" ++
      "minimal-scope-coverage\n\n").toList ++
      missingList items

/-- What is missing, after how much it is. Syntaxes do not count where a single file is tested. -/
def noticeBlock (singleFile : Bool) (r : SchemeReport) : Text :=
  let syntaxes := if singleFile then [] else r.missingSyntaxes
  let count := syntaxes.length + r.missingScopes.length
  if count = 0 then []
  else
    "\n   There ".toList ++ (if count = 1 then "is ".toList else "are ".toList) ++ Text.ofNat count ++
      (if count = 1 then " notice:\n".toList else " notices:\n".toList) ++
      missingSyntaxBlock syntaxes ++ missingScopeBlock r.missingScopes

def statistic (label : String) (items : List Text) : Text :=
  Text.line
    ("   ".toList ++ Text.padEnd 18 label.toList ++ " | ".toList ++
      Text.padStart 3 (Text.ofNat items.length) ++ " | ".toList ++ quoteList items)

/-- Characters of a color without its alpha channel. -/
def opaqueLength : Nat := 7

def statistics (r : SchemeReport) : Text :=
  let colors := r.info.colors.toList
  let withoutAlpha := (TextSet.ofList (colors.map (·.take opaqueLength))).toList
  let withAlpha := colors.filter (opaqueLength < ·.length)
  statistic "Syntaxes tested" r.syntaxes.toList ++ statistic "Colors used" colors ++
    (if withoutAlpha.length = colors.length then [] else statistic "Colors excl. alpha" withoutAlpha) ++
    (if withAlpha = [] then [] else statistic "Colors incl. alpha" withAlpha) ++
    statistic "Scopes used" r.info.scopes.toList ++
    if r.isLegacy then statistic "Font styles used" r.info.fontStyles.toList else []

def scheme (singleFile : Bool) (number : Text) (r : SchemeReport) : Text :=
  Text.line (number ++ ") ".toList ++ r.colorScheme) ++ noticeBlock singleFile r ++ '\n' ::
    statistics r ++ ['\n']

def report (singleFile : Bool) (reports : List SchemeReport) : Text :=
  "\nGenerating code coverage report...\n\n".toList ++ table reports ++ '\n' ::
    Progress.numbered (scheme singleFile) reports ++ ['\n']

end SchemeCheck.Coverage
