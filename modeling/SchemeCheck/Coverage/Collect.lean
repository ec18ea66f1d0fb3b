import SchemeCheck.Coverage.Report
import SchemeCheck.Fixture.Render
set_option autoImplicit false

namespace SchemeCheck

structure Coverage where
  enabled : Bool
  singleFile : Bool
  tested : Dict TextSet

namespace Coverage

def new (enabled singleFile : Bool) : Coverage := ⟨enabled, singleFile, Dict.empty⟩

def record (c : Coverage) (colorScheme syntaxFile : Text) : Coverage :=
  if c.enabled then
    { c with
      tested :=
        c.tested.insert colorScheme
          (TextSet.insert ((c.tested.get? colorScheme).getD Dict.empty) syntaxFile) }
  else c

end Coverage

namespace Changing
open Coverage (SchemeReport)

/-- The reports on the schemes of some entries; one that does not load is left out. -/
def reportsOn : List (Text × TextSet) → Changing (List SchemeReport)
  | [] => pure []
  | (colorScheme, syntaxes) :: rest => do
    let theme ← loadTheme colorScheme
    let reports ← reportsOn rest
    match theme with
    | .error _ => pure reports
    | .ok theme =>
      pure ({ colorScheme, syntaxes, info := Coverage.extract theme, isLegacy := theme.isLegacy } ::
        reports)

def finish (c : Coverage) : Changing Text := do
  if c.enabled && !c.tested.entries.isEmpty then
    pure (Coverage.report c.singleFile (← reportsOn c.tested.entries))
  else pure []

end Changing

namespace Coverage

def reports (c : Coverage) (host : Host) : Traced (List SchemeReport) :=
  (Changing.reportsOn c.tested.entries).on (.always host)

def finish (c : Coverage) (host : Host) : Traced Text := (Changing.finish c).on (.always host)

end Coverage
end SchemeCheck
