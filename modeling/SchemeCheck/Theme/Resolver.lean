import SchemeCheck.Fixture.Assertion
import SchemeCheck.Host.Basic
set_option autoImplicit false

/-!
The style of a scope path: a legacy theme is asked directly, a modern one through the view. A
resolver remembers its answers, so a view that changes later does not change them.
-/

namespace SchemeCheck

def HostStyle.toStyle (s : HostStyle) : Style :=
  s.attributes.insert Attribute.fontStyle.key s.fontStyle

def Theme.resolve (view : View) (score : Scorer) (path : Text) : Theme → Style
  | legacy t => accumulate score path t.scopedRules t.defaultStyle
  | modern _ => (view.style.overlay (view.styleForScope path)).toStyle

inductive Query where
  | scopeName (point : Nat)
  | style
  | styleForScope (path : Text)
  | score (path selector : Text)
  deriving DecidableEq

def Theme.queries (path : Text) : Theme → List Query
  | legacy t => (t.scopedRules.filterMap (·.selector)).map (.score path)
  | modern _ => [.style, .styleForScope path]

structure Resolver where
  theme : Theme
  known : List (Text × Style)

namespace Resolver

def new (theme : Theme) : Resolver := ⟨theme, []⟩

structure Answer where
  style : Style
  next : Resolver
  queries : List Query

def atScope (view : View) (score : Scorer) (r : Resolver) (scopePath : Text) : Answer :=
  let path := Text.trim scopePath
  match r.known.lookup path with
  | some style => ⟨style, r, []⟩
  | none =>
    let style := r.theme.resolve view score path
    ⟨style, { r with known := (path, style) :: r.known }, r.theme.queries path⟩

def atPoint (view : View) (score : Scorer) (r : Resolver) (point : Nat) : Answer :=
  let answer := r.atScope view score (view.scopeName point)
  { answer with queries := .scopeName point :: answer.queries }

end Resolver
end SchemeCheck
