import SchemeCheck.Buffer.View
import SchemeCheck.Proofs.Buffer.Spans
import SchemeCheck.Proofs.Text.Position
set_option autoImplicit false

namespace SchemeCheck

namespace Buffer
variable {b : Buffer} {line : Text} {row : Nat}

theorem textPoint_eq (returns : Text.ReturnsEndLines b.content)
    (h : (Text.lines b.content)[row]? = some line) (column : Nat) :
    b.textPoint row column = Text.byteLength (Text.upTo row column b.content) := by
  obtain ⟨found, bytes⟩ := Text.row_of_line h returns
  have start : b.rowStart row = Text.byteLength ((Text.linesWithEnds b.content).take row).flatten :=
    bytes
  rw [textPoint, show b.row? row = some line from found, Text.upTo_of_line h, Text.byteLength_append,
    ← start]

/-- Points of characters, as a text and the operations on its lines have them. -/
structure Points (content : Text) (opsOf : List LineOps) (b : Buffer) : Prop where
  character : ∀ row chars column c, (Text.lines content)[row]? = some chars → chars[column]? = some c →
    ∃ rest, content = Text.upTo row column content ++ c :: rest ∧
      b.textPoint row column = Text.byteLength (Text.upTo row column content)
  clamped : ∀ row chars column, (Text.lines content)[row]? = some chars → chars.length ≤ column →
    b.textPoint row column = Text.byteLength (Text.throughRow row content)
  ascending : ∀ row chars column row' chars' column', (Text.lines content)[row]? = some chars →
    column < chars.length → (Text.lines content)[row']? = some chars' → column' < chars'.length →
    row < row' ∨ row = row' ∧ column < column' → b.textPoint row column < b.textPoint row' column'
  scopes : ∀ row chars column, (Text.lines content)[row]? = some chars → column < chars.length →
    ∃ reached, ScopeStack.empty.performAll?
        (LineOps.through row (Text.byteLength (chars.take column)) opsOf) = some reached ∧
      b.scopeName (b.textPoint row column) = reached.path

/-- How a buffer lays out a text with the operations on its lines. -/
structure Layout (content : Text) (opsOf : List LineOps) (b : Buffer) : Prop where
  tiles : ScopeSpan.Tiles 0 (Text.byteLength content) b.spans
  points : Text.ReturnsEndLines content → b.Points content opsOf
  past : ∀ point, Text.byteLength content ≤ point → ∀ span, b.spans.getLast? = some span →
    b.scopeName point = span.path

theorem scopeName_of_spansOf {content : Text} {opsOf : List LineOps} {spans : List ScopeSpan}
    (h : ScopeSpan.SpansOf 0 .empty (Text.linesWithEnds content) opsOf spans)
    (fits : List.Forall₂ LineOps.Fit (Text.linesWithEnds content) opsOf)
    {row column : Nat} {line : Text} (hline : (Text.lines content)[row]? = some line)
    (hcolumn : column < line.length) :
    ∃ reached, ScopeStack.empty.performAll?
        (LineOps.through row (Text.byteLength (line.take column)) opsOf) = some reached ∧
      scopeName ⟨content, spans⟩ (Text.byteLength (Text.upTo row column content)) = reached.path := by
  obtain ⟨ending, whole⟩ := Text.exists_line_of_lines hline
  have inside : Text.byteLength (line.take column) < Text.byteLength (line ++ ending) := by
    have split : line.take column ++ line.drop column = line := List.take_append_drop column line
    have right : 0 < Text.byteLength (line.drop column) := Text.byteLength_pos (by
      rw [ne_eq, List.drop_eq_nil_iff]
      omega)
    have total := congrArg Text.byteLength split
    rw [Text.byteLength_append] at total ⊢
    omega
  obtain ⟨span, reached, found, performed, path⟩ := h.find? fits whole inside
  refine ⟨reached, performed, ?_⟩
  rw [Nat.zero_add, ← Text.byteLength_append, ← Text.upTo_of_line hline] at found
  rw [scopeName, found]
  exact path

theorem layout_of_spansOf {content : Text} {opsOf : List LineOps} {spans : List ScopeSpan}
    (h : ScopeSpan.SpansOf 0 .empty (Text.linesWithEnds content) opsOf spans)
    (fits : List.Forall₂ LineOps.Fit (Text.linesWithEnds content) opsOf) :
    Layout content opsOf ⟨content, spans⟩ := by
  have tiles : ScopeSpan.Tiles 0 (Text.byteLength content) spans := by
    have all := h.tiles fits
    rwa [Text.flatten_linesWithEnds, Nat.zero_add] at all
  have point : ∀ {row line}, Text.ReturnsEndLines content →
      (Text.lines content)[row]? = some line → ∀ column,
      textPoint ⟨content, spans⟩ row column = Text.byteLength (Text.upTo row column content) :=
    fun returns hline column => textPoint_eq (b := ⟨content, spans⟩) returns hline column
  refine ⟨tiles, fun returns => ⟨?_, ?_, ?_, ?_⟩, ?_⟩
  · intro row line column c hline hc
    obtain ⟨rest, split⟩ := Text.exists_append_upTo hline hc
    exact ⟨rest, split, point returns hline column⟩
  · intro row line column hline past
    rw [point returns hline, Text.upTo_of_line hline, Text.throughRow, hline, Option.getD_some,
      List.take_of_length_le past]
  · intro row line column row' line' column' hline hcolumn hline' _ later
    rw [point returns hline, point returns hline']
    exact Text.byteLength_upTo_lt hline hcolumn later
  · intro row line column hline hcolumn
    rw [point returns hline]
    exact scopeName_of_spansOf h fits hline hcolumn
  · intro place past span last
    rw [scopeName, tiles.find?_eq_none past]
    exact congrArg (fun o => (o.map ScopeSpan.path).getD []) last

theorem exists_layout {σ ε : Type} {parse : σ → Text → Except ε (LineOps × σ)} {start : σ}
    {content : Text} {b : Buffer} (h : Buffer.parse parse start content = .ok b) :
    ∃ opsOf, ScopeSpan.Parses parse start (Text.linesWithEnds content) opsOf ∧
      (List.Forall₂ LineOps.Fit (Text.linesWithEnds content) opsOf → b.Layout content opsOf) := by
  rw [Buffer.parse] at h
  split at h
  · cases h
  · next spans hspans =>
    obtain rfl := Except.ok.inj h
    obtain ⟨opsOf, parses, spansOf⟩ := ScopeSpan.exists_spansOf hspans
    exact ⟨opsOf, parses, layout_of_spansOf spansOf⟩

end Buffer

theorem Grammar.parse_of_render {g : Grammar} {content : Text} {b : Buffer}
    (h : g.render content = .ok b) : Buffer.parse g.parseLine g.start content = .ok b := by
  rw [Grammar.render] at h
  split at h
  · next parsed => rw [parsed, Except.ok.inj h]
  · cases h
  · cases h

theorem BufferView.parse_of_setContent {v : BufferView} {content : Text}
    (h : (v.setContent content).1 = .ok ()) :
    ∃ g, v.grammar = .ok g ∧
      Buffer.parse g.parseLine g.start content = .ok (v.setContent content).2.buffer := by
  cases hg : v.grammar with
  | error e => simp [setContent, hg, Except.bind] at h
  | ok g =>
    cases hb : g.render content with
    | error e => simp [setContent, hg, Except.bind, hb] at h
    | ok b =>
      have filled : (v.setContent content).2.buffer = b := by simp [setContent, hg, Except.bind, hb]
      exact ⟨g, rfl, by rw [Grammar.parse_of_render hb, filled]⟩

/-- A text that a parser gets through is laid out with what the parser makes of its lines, if the
offsets there ascend and lie within the lines. So is the content that a view takes. -/
theorem Buffer.layout_of_content (content : Text) :
    (∀ {σ ε : Type} (parse : σ → Text → Except ε (LineOps × σ)) (start : σ) (b : Buffer),
      Buffer.parse parse start content = .ok b →
        ∃ opsOf, ScopeSpan.Parses parse start (Text.linesWithEnds content) opsOf ∧
          (List.Forall₂ LineOps.Fit (Text.linesWithEnds content) opsOf → b.Layout content opsOf)) ∧
    ∀ v : BufferView, (v.setContent content).1 = .ok () →
      ∃ g opsOf, v.grammar = .ok g ∧
        ScopeSpan.Parses g.parseLine g.start (Text.linesWithEnds content) opsOf ∧
        (List.Forall₂ LineOps.Fit (Text.linesWithEnds content) opsOf →
          (v.setContent content).2.buffer.Layout content opsOf) := by
  constructor
  · intro σ ε parse start b h
    exact exists_layout h
  · intro v h
    obtain ⟨g, assigned, parsed⟩ := BufferView.parse_of_setContent h
    obtain ⟨opsOf, parses, layout⟩ := exists_layout parsed
    exact ⟨g, opsOf, assigned, parses, layout⟩

namespace Sample

def firstCharacters (_ : Unit) (line : Text) : Except Empty (LineOps × Unit) :=
  .ok ([(0, .push ['a']), (Text.byteLength (line.take 1), .pop 1)], ())

def twoRows : Text := "éx\ny".toList

theorem fit_firstCharacters (s : Unit) (line : Text) (ops : LineOps) (next : Unit)
    (h : firstCharacters s line = .ok (ops, next)) : LineOps.Fit line ops := by
  obtain ⟨rfl, -⟩ := Prod.mk.inj (Except.ok.inj h)
  refine ⟨by simp, ?_⟩
  cases line <;> simp

end Sample

theorem Buffer.layout_of_content_sample :
    ∃ b, Buffer.parse Sample.firstCharacters () Sample.twoRows = .ok b ∧
      b.textPoint 0 1 < b.textPoint 1 0 ∧ b.textPoint 1 0 = 4 ∧
      b.scopeName (b.textPoint 0 1) = [] ∧ b.scopeName (b.textPoint 1 0) = ['a'] := by
  have parsed : Buffer.parse Sample.firstCharacters () Sample.twoRows =
      .ok ⟨Sample.twoRows, [⟨0, 2, ['a']⟩, ⟨2, 4, []⟩, ⟨4, 5, ['a']⟩]⟩ := by rfl
  obtain ⟨opsOf, parses, layout⟩ := (Buffer.layout_of_content Sample.twoRows).1 _ _ _ parsed
  have points := (layout (parses.fits Sample.fit_firstCharacters)).points fun before after split => by
    have return_mem : '\r' ∈ Sample.twoRows := by rw [split]; simp
    exact absurd return_mem (by decide)
  have first : (Text.lines Sample.twoRows)[0]? = some ['é', 'x'] := by decide +kernel
  have second : (Text.lines Sample.twoRows)[1]? = some ['y'] := by decide +kernel
  obtain ⟨_, -, at_second⟩ := points.character 1 _ 0 'y' second rfl
  exact ⟨_, parsed, points.ascending 0 _ 1 1 _ 0 first (by decide) second (by decide) (.inl (by decide)),
    at_second.trans (by decide +kernel), by decide +kernel, by decide +kernel⟩

end SchemeCheck
