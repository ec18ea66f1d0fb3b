import SchemeCheck.Buffer.View
import SchemeCheck.Disk.Store
import SchemeCheck.Selector
set_option autoImplicit false

namespace SchemeCheck

structure DiskHost where
  store : Store
  catalog : Catalog
  build : Nat
  platform : Text

def Store.grammars (s : Store) : List (Text × Grammar) :=
  (s.find "*.sublime-syntax".toList).filterMap fun resource =>
    match s.load resource with
    | .ok content => (Grammar.ofDocument? content).map fun g => (resource, g)
    | .error _ => none

namespace DiskHost

def ofStore (store : Store) (build : Nat) (platform : Text) : DiskHost :=
  { store, catalog := Catalog.ofPackaged store.grammars, build, platform }

def find (h : DiskHost) (pattern : Text) : List Text :=
  (TextSet.ofList (h.store.find pattern ++ h.catalog.findBundled pattern)).toList

def newView (h : DiskHost) : BufferView := BufferView.new h.catalog Selector.score

def render (h : DiskHost) (syntaxFile schemeName : Text) (theme : Theme) (content : Text) :
    Except FixtureError View :=
  let assigned := h.newView.assignSyntax syntaxFile
  let filled := (assigned.2.setScheme schemeName theme).setContent content
  match assigned.1, filled.1 with
  | .error e, _ => .error e
  | .ok (), .error e => .error e
  | .ok (), .ok () => .ok filled.2.toView

def toHost (h : DiskHost) : Host where
  find := h.find
  load := h.store.load
  fileName := h.store.filePath
  canonical := h.store.disk.canonical h.store.folder
  isFile := h.store.disk.hasFile h.store.folder
  score := Selector.score
  build := h.build
  platform := h.platform
  assign file := (h.catalog.assigned file).map fun _ => ()
  render := h.render

end DiskHost
end SchemeCheck
