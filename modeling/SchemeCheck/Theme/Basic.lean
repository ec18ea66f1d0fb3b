import SchemeCheck.Dict
import SchemeCheck.Resource.Name
set_option autoImplicit false

/-!
Color schemes of the two generations. A legacy scheme is a list of rules, of which those without a
selector set the defaults; a modern one has globals and variables besides its rules.
-/

namespace SchemeCheck

abbrev Style := Dict Text

/-- Values for the scopes a selector matches; a rule without a selector has none of its own. -/
structure Rule where
  selector : Option Text
  style : Style
  deriving DecidableEq

namespace Rule

def isDefault (r : Rule) : Bool := r.selector.isNone

end Rule

namespace Style

/-- Styles laid over `base` from left to right; later values win. -/
def merge (base : Style) (upper : List Style) : Style := upper.foldl Dict.extend base

def getD (s : Style) (key : Text) : Text := (s.get? key).getD []

end Style

structure LegacyTheme where
  name : Option Text
  rules : List Rule
  deriving DecidableEq

namespace LegacyTheme

def defaultStyle (t : LegacyTheme) : Style :=
  Style.merge Dict.empty ((t.rules.filter Rule.isDefault).map (·.style))

def scopedRules (t : LegacyTheme) : List Rule := t.rules.filter (!·.isDefault)

end LegacyTheme

structure ModernTheme where
  name : Option Text
  globals : Style
  vars : Style
  rules : List Rule
  deriving DecidableEq

inductive Theme where
  | legacy (t : LegacyTheme)
  | modern (t : ModernTheme)
  deriving DecidableEq

namespace Theme

def name : Theme → Option Text
  | legacy t => t.name
  | modern t => t.name

def rules : Theme → List Rule
  | legacy t => t.rules
  | modern t => t.rules

def isLegacy : Theme → Bool
  | legacy _ => true
  | modern _ => false

end Theme
end SchemeCheck
