import SchemeCheck.Theme.Basic
import SchemeCheck.Score
set_option autoImplicit false

namespace SchemeCheck

def Rule.scored? (score : Scorer) (path : Text) (rule : Rule) : Option (Score × Rule) :=
  match rule.selector with
  | none => none
  | some selector =>
    let s := score path selector
    if s.isMatch then some (s, rule) else none

/-- The matching rules, those of the highest score last. -/
def rankedRules (score : Scorer) (path : Text) (rules : List Rule) : List (Score × Rule) :=
  (rules.filterMap (Rule.scored? score path)).mergeSort fun a b => a.1.atMost b.1

def accumulate (score : Scorer) (path : Text) (rules : List Rule) (base : Style) : Style :=
  base.merge ((rankedRules score path rules).map (·.2.style))

end SchemeCheck
