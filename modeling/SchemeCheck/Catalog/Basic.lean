import SchemeCheck.Catalog.Bundled
import SchemeCheck.Error
import SchemeCheck.Glob
import SchemeCheck.Grammar.Document
import SchemeCheck.Resource.Name
set_option autoImplicit false

/-!
The syntaxes that views can be given: the bundled ones, under the name of a resource that no package
holds, and those of packages, which take the place of bundled ones with the same name.
-/

namespace SchemeCheck

/-- A grammar that gives every text its scope and nothing else. -/
def Grammar.plain (name scope : Text) : Grammar :=
  let contexts := Dict.empty.insert mainName Context.empty
  { name, scope, contexts := (withStart? scope contexts).getD Dict.empty }

structure Catalog where
  grammars : List Grammar
  /-- Resources with the names of the grammars they define. -/
  resources : Dict Text
  bundled : List Text

namespace Catalog

def bundledGrammars : List Grammar :=
  bundledSyntaxes.map fun (name, scope) => Grammar.plain name.toList scope.toList

def ofPackaged (packaged : List (Text × Grammar)) : Catalog :=
  let taken := packaged.map (·.2.name)
  let kept := bundledGrammars.filter fun g => !taken.contains g.name
  let named := kept.map fun g => (Resource.ofSyntax g.name, g.name)
  { grammars := kept ++ packaged.map (·.2)
    resources := Dict.ofList (named ++ packaged.map fun (resource, g) => (resource, g.name))
    bundled := (TextSet.ofList (named.map (·.1))).toList }

/-- Of several grammars with one name the last counts. -/
def grammarNamed? (c : Catalog) (name : Text) : Option Grammar :=
  c.grammars.reverse.find? fun g => g.name == name

def grammarOf? (c : Catalog) (resource : Text) : Option Grammar :=
  (c.resources.get? resource).bind c.grammarNamed?

def findBundled (c : Catalog) (pattern : Text) : List Text :=
  c.bundled.filter fun resource => Glob.isMatch pattern (Resource.baseName resource)

def plainTextName : Text := "Plain Text".toList

def plainText (c : Catalog) : Grammar :=
  (c.grammarNamed? plainTextName).getD (Grammar.plain plainTextName "text.plain".toList)

def assigned (c : Catalog) (resource : Text) : Except FixtureError Grammar :=
  match c.grammarOf? resource with
  | some g => .ok g
  | none => .error (.unsupportedSyntax resource)

end Catalog
end SchemeCheck
