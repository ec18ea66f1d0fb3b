import SchemeCheck.Command.Config
import SchemeCheck.Disk.Write
import SchemeCheck.Error
import SchemeCheck.Suite.Progress
set_option autoImplicit false

namespace SchemeCheck

inductive Change where
  | folder (path : Text)
  | file (path : Text) (content : (elapsed : Nat) → Text)

structure Outcome where
  code : Nat
  stdout : (elapsed : Nat) → Text
  stderr : Text
  changes : List Change

structure Stop where
  message : Text
  cause : Option Text
  deriving DecidableEq

namespace Stop

def render (s : Stop) : Text :=
  "Error: ".toList ++ Text.line s.message ++
    match s.cause with
    | some cause => "\nCaused by:\n    ".toList ++ Text.line cause
    | none => []

def ofResource (e : ResourceError) : Stop :=
  match e with
  | .notFound _ => ⟨e.message, none⟩
  | .unreadable _ reason => ⟨e.message, some reason⟩

def ofTheme (e : ThemeError) : Stop :=
  match e with
  | .resource r => ofResource r
  | .malformedPropertyList _ reason => ⟨e.message, some reason⟩
  | .malformedJson _ reason => ⟨e.message, some reason⟩

def ofFixture (e : FixtureError) : Stop :=
  match e with
  | .resource r => ofResource r
  | .theme t => ofTheme t
  | e => ⟨e.message, none⟩

def ofConfig (e : ConfigError) : Stop :=
  match e with
  | .unreadable => ⟨e.message, some DiskFault.notText.reason⟩
  | .malformed => ⟨e.message, some "not a configuration".toList⟩

end Stop

namespace Outcome

def printed (text : Text) : Outcome := ⟨0, fun _ => text, [], []⟩

def stopped (s : Stop) : Outcome := ⟨1, fun _ => [], s.render, []⟩

end Outcome

namespace Disk

/-- The disk after a change; one that is not possible changes nothing. -/
def change (d : Disk) (folder : Text) (elapsed : Nat) : Change → Disk
  | .folder path => (d.createFolders folder path).toOption.getD d
  | .file path content => (d.write folder path (content elapsed)).toOption.getD d

end Disk
end SchemeCheck
