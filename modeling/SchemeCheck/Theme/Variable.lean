import SchemeCheck.Theme.Basic
import SchemeCheck.Text.Blank
set_option autoImplicit false

namespace SchemeCheck.Variable

/-- The name in a value that is a plain reference. -/
def reference? (value : Text) : Option Text :=
  ((Text.after? "var(".toList value).bind (Text.before? [')'])).map Text.trim

def follow? (vars : Style) (value : Text) : Option Text :=
  ((reference? value).bind vars.get?).map Text.trim

/-- The value after following references as long as there is one, at most `hops` times. -/
def followUpTo (vars : Style) : (hops : Nat) → Text → Text
  | 0, value => value
  | hops + 1, value =>
    match follow? vars value with
    | none => value
    | some next => followUpTo vars hops next

def maxHops : Nat := 8

def resolve (vars : Style) (value : Text) : Text :=
  followUpTo vars maxHops (Text.trim value)

def resolveAll (vars style : Style) : Style := style.mapValues (resolve vars)

end SchemeCheck.Variable
