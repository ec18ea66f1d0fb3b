import SchemeCheck.Buffer.Basic
import SchemeCheck.Catalog.Basic
import SchemeCheck.Host.Basic
set_option autoImplicit false

namespace SchemeCheck

def Grammar.render (g : Grammar) (content : Text) : Except FixtureError Buffer :=
  match Buffer.parse g.parseLine g.start content with
  | .ok b => .ok b
  | .error (.unparsed e) => .error (.render e.message)
  | .error .nothingTakenOff => .error (.render "NoClearedScopesToRestore".toList)

structure BufferView where
  catalog : Catalog
  score : Scorer
  syntaxFile : Option Text
  schemeName : Option Text
  theme : Option Theme
  buffer : Buffer

namespace BufferView

def new (catalog : Catalog) (score : Scorer) : BufferView :=
  { catalog, score, syntaxFile := none, schemeName := none, theme := none, buffer := Buffer.empty }

def grammar (v : BufferView) : Except FixtureError Grammar :=
  match v.syntaxFile with
  | some file => v.catalog.assigned file
  | none => .ok v.catalog.plainText

/-- The view with new content. Where that cannot be rendered, the spans stay as they are. -/
def setContent (v : BufferView) (content : Text) : Except FixtureError Unit × BufferView :=
  match v.grammar.bind (·.render content) with
  | .ok buffer => (.ok (), { v with buffer })
  | .error e => (.error e, { v with buffer := { v.buffer with content } })

def assignSyntax (v : BufferView) (file : Text) : Except FixtureError Unit × BufferView :=
  match v.catalog.assigned file with
  | .ok _ => { v with syntaxFile := some file }.setContent v.buffer.content
  | .error e => (.error e, v)

def setScheme (v : BufferView) (name : Text) (theme : Theme) : BufferView :=
  { v with schemeName := some name, theme := some theme }

/-- An empty view; the names of its syntax and color scheme stay. -/
def close (v : BufferView) : BufferView := { v with theme := none, buffer := Buffer.empty }

def style (v : BufferView) : HostStyle := (v.theme.map Theme.viewStyle).getD HostStyle.empty

def styleForScope (v : BufferView) (path : Text) : HostStyle :=
  (v.theme.map (Theme.scopeStyle v.score path)).getD HostStyle.empty

def toView (v : BufferView) : View where
  textPoint := v.buffer.textPoint
  scopeName := v.buffer.scopeName
  style := v.style
  styleForScope := v.styleForScope

end BufferView
end SchemeCheck
