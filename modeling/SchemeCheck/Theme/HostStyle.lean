import SchemeCheck.Theme.Matching
import SchemeCheck.Theme.Variable
set_option autoImplicit false

namespace SchemeCheck

/-- Attributes without the font style, and its flags where they are set. -/
structure HostStyle where
  attributes : Style
  bold : Option Bool
  italic : Option Bool
  deriving DecidableEq

namespace HostStyle

def empty : HostStyle := ⟨Dict.empty, none, none⟩

def overlay (base upper : HostStyle) : HostStyle where
  attributes := base.attributes.extend upper.attributes
  bold := upper.bold <|> base.bold
  italic := upper.italic <|> base.italic

def boldWord : Text := "bold".toList

def italicWord : Text := "italic".toList

def fontStyle (s : HostStyle) : Text :=
  [' '].intercalate
    ((if s.bold = some true then [boldWord] else []) ++
      (if s.italic = some true then [italicWord] else []))

/-- The two spellings of the font style attribute. -/
def fontKeys : List Text := ["font_style".toList, "fontStyle".toList]

def fontWords (s : Style) : List Text := (fontKeys.filterMap s.get?).flatMap Text.words

/-- A flag is true or absent. -/
def flag (word : Text) (s : Style) : Option Bool :=
  if (fontWords s).contains word then some true else none

def ofStyle (s : Style) : HostStyle where
  attributes := fontKeys.foldl Dict.erase s
  bold := flag boldWord s
  italic := flag italicWord s

end HostStyle

namespace Theme

def onlyForeground (s : Style) : Style :=
  match s.get? "foreground".toList with
  | none => Dict.empty
  | some value => Dict.empty.insert "foreground".toList value

def viewStyle : Theme → HostStyle
  | modern t => .ofStyle (Variable.resolveAll t.vars t.globals)
  | legacy t => .ofStyle t.defaultStyle

/-- The style of the rules that match a path; without a foreground among them it is the view's. -/
def scopeStyle (score : Scorer) (path : Text) : Theme → HostStyle
  | modern t =>
    .ofStyle (Variable.resolveAll t.vars
      (accumulate score path t.rules (onlyForeground t.globals)))
  | legacy t => .ofStyle (accumulate score path t.scopedRules (onlyForeground t.defaultStyle))

end Theme
end SchemeCheck
