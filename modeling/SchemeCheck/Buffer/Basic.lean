import SchemeCheck.Grammar.Line
set_option autoImplicit false

/-!
Rendered buffers: a text with the scope path of every byte, in spans that follow each other. Points
are byte offsets. Rows end at line feeds, and any row may be asked for its text, its points and their
scope paths.
-/

namespace SchemeCheck

/-- The bytes from `first` up to `last`, which have one scope path. -/
structure ScopeSpan where
  first : Nat
  last : Nat
  path : Text
  deriving DecidableEq

/-- What stops the rendering of a text: its parser, or scopes to put back where none were taken off. -/
inductive RenderFault (ε : Type) where
  | unparsed (e : ε)
  | nothingTakenOff

namespace ScopeSpan

/-- The spans of a line that starts at byte `base`, from `column` on, and the scopes at its end. A span
ends where operations change the scopes. -/
def ofLine? (base length : Nat) :
    (column : Nat) → ScopeStack → LineOps → Option (List ScopeSpan × ScopeStack)
  | column, stack, [] =>
    some (if column < length then [⟨base + column, base + length, stack.path⟩] else [], stack)
  | column, stack, (offset, op) :: ops => do
    let next ← stack.perform? op
    let (spans, final) ← ofLine? base length (max column offset) next ops
    some (if column < offset then ⟨base + column, base + offset, stack.path⟩ :: spans else spans, final)

def ofLines {σ ε : Type} (parse : σ → Text → Except ε (LineOps × σ)) :
    σ → (base : Nat) → ScopeStack → List Text → Except (RenderFault ε) (List ScopeSpan)
  | _, _, _, [] => .ok []
  | s, base, stack, line :: lines =>
    match parse s line with
    | .error e => .error (.unparsed e)
    | .ok (ops, next) =>
      match ofLine? base (Text.byteLength line) 0 stack ops with
      | none => .error .nothingTakenOff
      | some (spans, final) =>
        match ofLines parse next (base + Text.byteLength line) final lines with
        | .error e => .error e
        | .ok rest => .ok (spans ++ rest)

end ScopeSpan

structure Buffer where
  content : Text
  spans : List ScopeSpan
  deriving DecidableEq

namespace Buffer

def empty : Buffer := ⟨[], []⟩

def parse {σ ε : Type} (parse : σ → Text → Except ε (LineOps × σ)) (start : σ) (content : Text) :
    Except (RenderFault ε) Buffer :=
  match ScopeSpan.ofLines parse start 0 .empty (Text.linesWithEnds content) with
  | .error e => .error e
  | .ok spans => .ok ⟨content, spans⟩

/-- The rows between line feeds; after the last one there is a row, too. -/
def rows (b : Buffer) : List Text := Text.split (· == '\n') b.content

def row? (b : Buffer) (row : Nat) : Option Text :=
  (b.rows[row]?).map (Text.dropEndWhile (· == '\r'))

def rowStart (b : Buffer) (row : Nat) : Nat :=
  (b.rows.take row).foldr (fun r n => Text.byteLength r + 1 + n) 0

/-- The byte offset of a character of a row. Columns past its end count as the end of the row, and rows
past the last as the end of the buffer. -/
def textPoint (b : Buffer) (row column : Nat) : Nat :=
  match b.row? row with
  | none => Text.byteLength b.content
  | some text => b.rowStart row + Text.byteLength (text.take column)

/-- The scope path at a point; past the end it is that of the last span. -/
def scopeName (b : Buffer) (point : Nat) : Text :=
  match b.spans.find? (point < ·.last) with
  | some span => span.path
  | none => (b.spans.getLast?.map (·.path)).getD []

end Buffer
end SchemeCheck
