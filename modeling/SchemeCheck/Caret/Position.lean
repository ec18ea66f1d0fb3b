import SchemeCheck.Caret.Run
import SchemeCheck.Fixture.Render
import SchemeCheck.Theme.Resolver
set_option autoImplicit false

namespace SchemeCheck

def Caret.clauses (style : Style) : Text :=
  "fg=".toList ++ style.getD Attribute.foreground.key ++ " fs=".toList ++
    style.getD Attribute.fontStyle.key

def Caret.rowClauses (view : View) (score : Scorer) (row : Nat) :
    Resolver → (column : Nat) → Text → List Text
  | _, _, [] => []
  | r, column, c :: line =>
    if c = ' ' then [] :: rowClauses view score row r (column + 1) line
    else
      let answer := r.atPoint view score (view.textPoint row column)
      Caret.clauses answer.style :: rowClauses view score row answer.next (column + 1) line

def Changing.generateAssertions (fixture content : Text) (row : Nat) :
    Changing (Except FixtureError Text) :=
  withFixture fixture content fun host header view theme =>
    let line := (Text.lines content)[row]?.getD []
    let styles := Caret.rowClauses view host.score row (Resolver.new theme) 0 line
    let (opening, closing) := Caret.markers (header.opener.map CommentOpener.text)
    Caret.assertionText styles opening closing

def Host.generateAssertions (host : Host) (fixture content : Text) (row : Nat) :
    Traced (Except FixtureError Text) :=
  (Changing.generateAssertions fixture content row).on (.always host)

structure ScopeInfo where
  scope : Text
  style : Style

namespace ScopeInfo

def render (info : ScopeInfo) : Text :=
  let line (e : Text × Text) : Text := e.1 ++ ": ".toList ++ e.2 ++ ['\n']
  let leading := Attribute.all.map Attribute.key
  let first := leading.filterMap fun key => (info.style.get? key).map fun value => (key, value)
  let others := info.style.entries.filter fun e => !leading.contains e.1
  (Text.words info.scope).flatMap (· ++ ['\n']) ++ '\n' :: (first ++ others).flatMap line

end ScopeInfo

def Changing.inspectScope (fixture content : Text) (row column : Nat) :
    Changing (Except FixtureError ScopeInfo) :=
  withFixture fixture content fun host _ view theme =>
    let scope := view.scopeName (view.textPoint row column)
    { scope := Text.trimEnd scope
      style := ((Resolver.new theme).atScope view host.score scope).style }

def Host.inspectScope (host : Host) (fixture content : Text) (row column : Nat) :
    Traced (Except FixtureError ScopeInfo) :=
  (Changing.inspectScope fixture content row column).on (.always host)

end SchemeCheck
