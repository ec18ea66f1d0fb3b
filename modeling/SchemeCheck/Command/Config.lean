import SchemeCheck.Number.Decimal
import SchemeCheck.Toml.Reader
set_option autoImplicit false

namespace SchemeCheck

structure Config where
  packages : Option Text
  build : Nat
  debug : Bool
  coverage : Bool
  deriving DecidableEq

inductive ConfigError where
  | unreadable
  | malformed
  deriving DecidableEq

def ConfigError.message : ConfigError → Text
  | unreadable => "Failed to read config file".toList
  | malformed => "Failed to parse config file".toList

namespace Config

def defaultBuild : Nat := 4200

def default : Config := ⟨none, defaultBuild, false, false⟩

def field? {α : Type} (entries : TomlEntries) (key : String) (default : α)
    (read? : Toml → Option α) : Option α :=
  match entries.lookup key.toList with
  | none => some default
  | some value => read? value

def text? : Toml → Option Text
  | .string t => some t
  | _ => none

def bool? : Toml → Option Bool
  | .bool b => some b
  | _ => none

def build? : Toml → Option Nat
  | .integer n => if 0 ≤ n ∧ n ≤ Decimal.maxUnsigned32 then some n.toNat else none
  | _ => none

def ofEntries? (entries : TomlEntries) : Option Config := do
  let packages ← field? entries "packages_path" none fun v => (text? v).map some
  let build ← field? entries "build" defaultBuild build?
  let debug ← field? entries "debug" false bool?
  let coverage ← field? entries "coverage" false bool?
  some { packages, build, debug, coverage }

def ofText (content : Text) : Except ConfigError Config :=
  match (Toml.read? content).bind ofEntries? with
  | some config => .ok config
  | none => .error .malformed

end Config
end SchemeCheck
