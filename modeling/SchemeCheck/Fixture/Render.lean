import SchemeCheck.Fixture.Header
import SchemeCheck.Host.Changing
import SchemeCheck.Theme.Document
set_option autoImplicit false

namespace SchemeCheck

/-- A name that is found exactly once stands for what is found, every other for its rooted path. -/
def Host.schemePath (name : Text) : List Text → Text
  | [found] => found
  | _ => Resource.rooted name

namespace Changing

/-- The first suffix under which a syntax is found decides; it must be found there once. -/
def resolveSyntaxAmong (name : Text) : List Text → Changing (Except FixtureError Text)
  | [] => pure (.error (.syntaxNotFound name))
  | suffix :: suffixes => do
    match ← find (name ++ suffix) with
    | [] => resolveSyntaxAmong name suffixes
    | [found] => pure (.ok found)
    | found => pure (.error (.ambiguousSyntax found))

def resolveSyntax (name : Text) : Changing (Except FixtureError Text) :=
  resolveSyntaxAmong name Resource.syntaxSuffixes

def loadTheme (name : Text) : Changing (Except ThemeError Theme) := do
  let path := Host.schemePath name (← find name)
  match ← load path with
  | .error e => pure (.error (.resource e))
  | .ok content => pure (Theme.ofDocument path content)

/-- What `body` makes of a text rendered with a syntax and the color scheme of a header, on the host
that rendered it. -/
def withRendered {α : Type} (header : Header) (syntaxFile content : Text)
    (body : Host → View → Theme → α) : Changing (Except FixtureError α) :=
  withView do
    match (← now).assign syntaxFile with
    | .error e => pure (.error e)
    | .ok () =>
      match ← loadTheme header.schemePath with
      | .error e => pure (.error (.theme e))
      | .ok theme =>
        let host ← now
        match host.render syntaxFile header.schemePath theme content with
        | .error e => pure (.error e)
        | .ok view => pure (.ok (body host view theme))

def withFixture {α : Type} (fixture content : Text) (body : Host → Header → View → Theme → α) :
    Changing (Except FixtureError α) := do
  match Header.read? content with
  | none => pure (.error .invalidHeader)
  | some header =>
    match ← resolveSyntax (header.syntaxFor fixture) with
    | .error e => pure (.error e)
    | .ok syntaxFile => withRendered header syntaxFile content fun host => body host header

end Changing

namespace Host

def resolveSyntaxAmong (host : Host) (name : Text) (suffixes : List Text) :
    Traced (Except FixtureError Text) := (Changing.resolveSyntaxAmong name suffixes).on (.always host)

def resolveSyntax (host : Host) (name : Text) : Traced (Except FixtureError Text) :=
  (Changing.resolveSyntax name).on (.always host)

def loadTheme (host : Host) (name : Text) : Traced (Except ThemeError Theme) :=
  (Changing.loadTheme name).on (.always host)

def withRendered {α : Type} (host : Host) (header : Header) (syntaxFile content : Text)
    (body : View → Theme → α) : Traced (Except FixtureError α) :=
  (Changing.withRendered header syntaxFile content fun _ => body).on (.always host)

def withFixture {α : Type} (host : Host) (fixture content : Text)
    (body : Header → View → Theme → α) : Traced (Except FixtureError α) :=
  (Changing.withFixture fixture content fun _ => body).on (.always host)

end Host
end SchemeCheck
