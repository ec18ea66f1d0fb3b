import SchemeCheck.Text.Blank
import SchemeCheck.Text.Case
import SchemeCheck.Theme.Basic
set_option autoImplicit false

namespace SchemeCheck.Coverage

def minimalSyntaxes : List Text :=
  ["Packages/C++/C.sublime-syntax", "Packages/CSS/CSS.sublime-syntax",
    "Packages/HTML/HTML.sublime-syntax", "Packages/JSON/JSON.sublime-syntax",
    "Packages/JavaScript/JavaScript.sublime-syntax", "Packages/Markdown/Markdown.sublime-syntax",
    "Packages/PHP/PHP.sublime-syntax", "Packages/Python/Python.sublime-syntax",
    "Packages/Ruby/Ruby.sublime-syntax", "Packages/XML/XML.sublime-syntax"].map String.toList

def minimalScopes : List Text :=
  ["comment", "constant", "constant.character.escape", "constant.language", "constant.numeric",
    "entity.name", "entity.name.section", "entity.name.tag", "entity.other.attribute-name",
    "entity.other.inherited-class", "invalid", "invalid.deprecated", "keyword", "keyword.control",
    "keyword.declaration", "keyword.operator", "storage.modifier", "storage.type", "string",
    "support", "variable", "variable.function", "variable.language",
    "variable.parameter"].map String.toList

/-- What a color scheme declares; font styles are told of legacy schemes only. -/
structure SchemeInfo where
  colors : TextSet
  scopes : TextSet
  fontStyles : TextSet
  deriving DecidableEq

def hexColors (style : Style) : List Text :=
  (style.values.filter fun v => v.head? = some '#').map Text.lower

def selectorScopes (selector : Text) : List Text :=
  (Text.split (· == ',') selector).map Text.trim

def ruleScopes (rules : List Rule) : List Text :=
  (rules.filterMap (·.selector)).flatMap selectorScopes

def modernColors (t : ModernTheme) : List Text :=
  hexColors t.globals ++ hexColors t.vars ++ t.rules.flatMap (hexColors ·.style)

/-- Of a default rule all colors count, of every rule the foreground and background as they are. -/
def legacyColors (rule : Rule) : List Text :=
  (if rule.isDefault then hexColors rule.style else []) ++
    (["foreground".toList, "background".toList].filterMap rule.style.get?).map Text.lower

def legacyFontStyles (rule : Rule) : List Text :=
  ((rule.style.get? "fontStyle".toList).map Text.words).getD []

def extract : Theme → SchemeInfo
  | .modern t =>
    { colors := TextSet.ofList (modernColors t)
      scopes := TextSet.ofList (ruleScopes t.rules)
      fontStyles := Dict.empty }
  | .legacy t =>
    { colors := TextSet.ofList (t.rules.flatMap legacyColors)
      scopes := TextSet.ofList (ruleScopes t.rules)
      fontStyles := TextSet.ofList (t.rules.flatMap legacyFontStyles) }

end SchemeCheck.Coverage
