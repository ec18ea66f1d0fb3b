import SchemeCheck.Fixture.Assertion
import SchemeCheck.Proofs.Fixture.Header
import SchemeCheck.Proofs.List
set_option autoImplicit false

/-!
The assertions of a document, line by line: which lines make one, and that it speaks about the carets
as they stand and about the nearest line above that makes none. A header is never an assertion line,
so below a header every assertion line has a line to speak about.
-/

namespace SchemeCheck

def AssertionLine.isAccepted (line : Text) : Bool := (read? line).isSome

namespace Assertion
open AssertionLine

/-- `row` is the greatest index below `i` whose line is no assertion line. -/
structure IsSubject (ls : List Text) (i row : Nat) : Prop where
  above : row < i
  plain : ∃ line, ls[row]? = some line ∧ isAccepted line = false
  between : ∀ j, row < j → j < i → ∃ line, ls[j]? = some line ∧ isAccepted line

theorem IsSubject.unique {ls : List Text} {i row row' : Nat} (h : IsSubject ls i row)
    (h' : IsSubject ls i row') : row = row' := by
  have least : ∀ {r r' : Nat}, IsSubject ls i r → IsSubject ls i r' → ¬ r < r' := by
    intro r r' hr hr' lt
    obtain ⟨line, hline, plain⟩ := hr'.plain
    obtain ⟨line', hline', accepted⟩ := hr.between r' lt hr'.above
    rw [hline, Option.some_inj] at hline'
    rw [hline', accepted] at plain
    exact absurd plain (by decide)
  have low := least h h'
  have high := least h' h
  omega

def isStated (ls : List Text) (i : Nat) : Bool :=
  ls[i]?.any isAccepted && (List.range i).any fun j => ls[j]?.any (!isAccepted ·)

/-- The assertion is what line `i` says: about the nearest line above that says nothing, and the
columns of the first carets of the line as it stands. -/
def StatedBy (ls : List Text) (i : Nat) (a : Assertion) : Prop :=
  ∃ line parsed before after, ls[i]? = some line ∧ read? line = some parsed ∧
    IsSubject ls i a.row ∧
    CaretRun line before (a.colEnd - a.colBegin) after ∧ a.colBegin = before.length ∧
    a.colBegin < a.colEnd ∧
    a.expected = ⟨parsed.foreground, parsed.background, parsed.fontStyle⟩ ∧
    a.rawText = parsed.text ∧ a.minBuild = parsed.minBuild

def SubjectAt (ls : List Text) (i : Nat) : Option Nat → Prop
  | none => ∀ j < i, ∀ line, ls[j]? = some line → isAccepted line
  | some row => IsSubject ls i row

theorem SubjectAt.plain {ls : List Text} {i : Nat} {line : Text} (h : ls[i]? = some line)
    (hline : isAccepted line = false) : SubjectAt ls (i + 1) (some i) :=
  ⟨Nat.lt_succ_self i, ⟨line, h, hline⟩, fun j low high => absurd high (by omega)⟩

theorem SubjectAt.accepted {ls : List Text} {i : Nat} {line : Text} {subject : Option Nat}
    (hs : SubjectAt ls i subject) (h : ls[i]? = some line) (hline : isAccepted line) :
    SubjectAt ls (i + 1) subject := by
  cases subject with
  | none =>
    intro j hj l hl
    rcases Nat.lt_succ_iff_lt_or_eq.1 hj with lt | rfl
    · exact hs j lt l hl
    · rw [h] at hl
      cases hl
      exact hline
  | some row =>
    obtain ⟨above, plain, between⟩ := hs
    refine ⟨Nat.lt_succ_of_lt above, plain, fun j low high => ?_⟩
    rcases Nat.lt_succ_iff_lt_or_eq.1 high with lt | rfl
    · exact between j low lt
    · exact ⟨line, h, hline⟩

theorem isStated_iff {ls : List Text} {i : Nat} {line : Text} {subject : Option Nat}
    (hs : SubjectAt ls i subject) (h : ls[i]? = some line) :
    isStated ls i = (isAccepted line && subject.isSome) := by
  rw [isStated, h, Option.any_some]
  congr 1
  cases subject with
  | none =>
    simp only [Option.isSome_none, List.any_eq_false, List.mem_range]
    intro j hj
    cases hl : ls[j]? with
    | none => simp
    | some l => simpa using hs j hj l hl
  | some row =>
    obtain ⟨above, ⟨l, hl, plain⟩, -⟩ := hs
    simp only [Option.isSome_some, List.any_eq_true, List.mem_range]
    exact ⟨row, above, by simp [hl, plain]⟩

theorem findIdx?_caret {line before after : Text} {n : Nat} (h : CaretRun line before n after) :
    line.findIdx? (· == '^') = some before.length := by
  obtain ⟨rfl, pos, free, -⟩ := h
  have none : before.findIdx? (· == '^') = none := by
    rw [List.findIdx?_eq_none_iff]
    intro c hc
    simpa using fun e : c = '^' => free (e ▸ hc)
  obtain ⟨k, rfl⟩ := Nat.exists_eq_succ_of_ne_zero (Nat.pos_iff_ne_zero.1 pos)
  rw [List.findIdx?_append, none, List.replicate_succ, List.cons_append, List.findIdx?_cons]
  simp

theorem ofLine?_of_read? {line : Text} {parsed : AssertionLine} (hp : read? line = some parsed)
    (row : Nat) :
    ∃ before after, CaretRun line before parsed.carets after ∧
      ofLine? row line parsed = some
        { row
          colBegin := before.length
          colEnd := before.length + parsed.carets
          expected := ⟨parsed.foreground, parsed.background, parsed.fontStyle⟩
          rawText := parsed.text
          minBuild := parsed.minBuild } := by
  obtain ⟨before, after, run, -⟩ := run_of_read? hp
  exact ⟨before, after, run, by rw [ofLine?, findIdx?_caret run, Option.map_some]⟩

theorem statedBy_ofLine? {ls : List Text} {i row : Nat} {line : Text} {parsed : AssertionLine}
    (hs : IsSubject ls i row) (h : ls[i]? = some line) (hp : read? line = some parsed) :
    ∃ a, ofLine? row line parsed = some a ∧ StatedBy ls i a := by
  obtain ⟨before, after, run, ha⟩ := ofLine?_of_read? hp row
  have pos := run.count_pos
  refine ⟨_, ha, line, parsed, before, after, h, hp, hs, ?_, rfl, ?_, rfl, rfl, rfl⟩
  · simpa using run
  · simpa using pos

theorem forall₂_ofLinesFrom {ls rest : List Text} {i : Nat} {subject : Option Nat}
    (hrest : ls.drop i = rest) (hs : SubjectAt ls i subject) :
    List.Forall₂ (StatedBy ls) ((List.range' i rest.length).filter (isStated ls))
      (ofLinesFrom i subject rest) := by
  induction rest generalizing i subject with
  | nil => simp [ofLinesFrom]
  | cons line rest ih =>
    have hi : ls[i]? = some line := by
      have := congrArg (·[0]?) hrest
      simpa using this
    have hnext : ls.drop (i + 1) = rest := by
      rw [← List.drop_drop, hrest]
      rfl
    rw [List.length_cons, List.range'_succ, List.filter_cons, isStated_iff hs hi, ofLinesFrom]
    cases hp : read? line with
    | none =>
      have plain : isAccepted line = false := by simp [isAccepted, hp]
      simpa [plain] using ih hnext (.plain hi plain)
    | some parsed =>
      have accepted : isAccepted line = true := by simp [isAccepted, hp]
      have tail := ih hnext (hs.accepted hi accepted)
      cases subject with
      | none => simpa [accepted] using tail
      | some row =>
        obtain ⟨a, ha, stated⟩ := statedBy_ofLine? hs hi hp
        simpa [accepted, ha] using List.Forall₂.cons stated tail

theorem length_ofLinesFrom (i row : Nat) (ls : List Text) :
    (ofLinesFrom i (some row) ls).length = ls.countP isAccepted := by
  induction ls generalizing i row with
  | nil => rfl
  | cons line ls ih =>
    rw [ofLinesFrom, List.countP_cons]
    cases hp : read? line with
    | none => simpa [isAccepted, hp] using ih (i + 1) i
    | some parsed =>
      obtain ⟨before, after, -, ha⟩ := ofLine?_of_read? hp row
      simp [isAccepted, hp, ha, ih (i + 1) row, Nat.add_comm]

theorem length_ofDocument_of_header {content : Text} {header : Header}
    (h : Header.read? content = some header) :
    (ofDocument content).length = (Text.lines content).countP isAccepted := by
  cases hl : Text.lines content with
  | nil =>
    obtain ⟨opening, rest, hcontent, -⟩ := Header.exists_capital_of_read? h
    simp [Text.lines_eq_nil_iff.1 hl] at hcontent
  | cons first others =>
    have plain := Header.read?_first_eq_none h hl
    have := length_ofLinesFrom 1 0 others
    simpa [ofDocument, hl, ofLinesFrom, plain, isAccepted] using this

/-! ## Assertion lines below a row -/

/-- Assertion lines right below a line that is none. -/
structure Stack (ls : List Text) (row : Nat) (stacked : List Text) : Prop where
  plain : ∃ line, ls[row]? = some line ∧ isAccepted line = false
  below : ∃ rest, ls.drop (row + 1) = stacked ++ rest
  accepted : ∀ line ∈ stacked, isAccepted line

namespace Stack
variable {ls stacked : List Text} {row : Nat}

theorem of_insertedBelow {content content' line : Text}
    (h : Text.InsertedBelow row stacked content content')
    (hline : (Text.lines content)[row]? = some line) (plain : isAccepted line = false)
    (accepted : ∀ l ∈ stacked, isAccepted l) : Stack (Text.lines content') row stacked := by
  have inside : row < (Text.lines content).length := (List.getElem?_eq_some_iff.1 hline).1
  have length : ((Text.lines content).take (row + 1)).length = row + 1 := by
    rw [List.length_take]
    omega
  refine ⟨⟨line, ?_, plain⟩, ⟨(Text.lines content).drop (row + 1), ?_⟩, accepted⟩
  · rw [h.lines_eq, List.getElem?_append_left (by omega), List.getElem?_take_of_lt (by omega), hline]
  · rw [h.lines_eq, List.drop_left' length]

theorem getElem? (h : Stack ls row stacked) {i : Nat} (hi : i < stacked.length) :
    ls[row + 1 + i]? = stacked[i]? := by
  obtain ⟨rest, below⟩ := h.below
  rw [← List.getElem?_drop, below, List.getElem?_append_left hi]

theorem isSubject (h : Stack ls row stacked) {i : Nat} (low : row < i)
    (high : i ≤ row + 1 + stacked.length) : IsSubject ls i row := by
  refine ⟨low, h.plain, fun j below above => ?_⟩
  obtain ⟨k, rfl⟩ := Nat.exists_eq_add_of_le (Nat.succ_le_of_lt below)
  have hk : k < stacked.length := by omega
  exact ⟨stacked[k], by rw [h.getElem? hk, List.getElem?_eq_getElem hk],
    h.accepted _ (List.getElem_mem hk)⟩

theorem isStated (h : Stack ls row stacked) {i : Nat} (low : row < i)
    (high : i < row + 1 + stacked.length) : isStated ls i := by
  obtain ⟨k, rfl⟩ := Nat.exists_eq_add_of_le (Nat.succ_le_of_lt low)
  have hk : k < stacked.length := by omega
  have here : ls[row + 1 + k]? = some stacked[k] := by
    rw [h.getElem? hk, List.getElem?_eq_getElem hk]
  have subject : SubjectAt ls (row + 1 + k) (some row) := h.isSubject low (by omega)
  rw [isStated_iff subject here, h.accepted _ (List.getElem_mem hk)]
  rfl

end Stack

/-- Stacked lines make one assertion each, in a row, and no other line makes one of these. -/
theorem exists_stacked {content : Text} {row : Nat} {stacked : List Text}
    (h : Stack (Text.lines content) row stacked) :
    ∃ before made after, ofDocument content = before ++ (made ++ after) ∧
      List.Forall₂ (StatedBy (Text.lines content)) (List.range' (row + 1) stacked.length) made ∧
      ∀ a ∈ before ++ after, ∃ i, (i ≤ row ∨ row + stacked.length < i) ∧
        StatedBy (Text.lines content) i a := by
  generalize hls : Text.lines content = ls at h
  obtain ⟨rest, below⟩ := h.below
  have all : List.Forall₂ (StatedBy ls) ((List.range' 0 ls.length).filter (isStated ls))
      (ofDocument content) := by
    rw [ofDocument, hls]
    exact forall₂_ofLinesFrom rfl fun j hj => absurd hj (Nat.not_lt_zero j)
  have length : ls.length = (row + 1) + (stacked.length + rest.length) := by
    have total := congrArg List.length below
    obtain ⟨line, hline, -⟩ := h.plain
    have inside := (List.getElem?_eq_some_iff.1 hline).1
    rw [List.length_drop, List.length_append] at total
    omega
  have stated : (List.range' (row + 1) stacked.length).filter (isStated ls) =
      List.range' (row + 1) stacked.length := by
    refine List.filter_eq_self.2 fun i hi => ?_
    have bounds := List.mem_range'_1.1 hi
    exact h.isStated (by omega) (by omega)
  -- The lines fall into those through the row, the stacked ones and those below.
  have outer : List.range' 0 (row + 1) ++ List.range' (0 + (row + 1)) (stacked.length + rest.length) =
      List.range' 0 (row + 1 + (stacked.length + rest.length)) := List.range'_append_1
  have inner : List.range' (row + 1) stacked.length ++
      List.range' (row + 1 + stacked.length) rest.length =
        List.range' (row + 1) (stacked.length + rest.length) := List.range'_append_1
  rw [length, ← outer, Nat.zero_add, ← inner, List.filter_append, List.filter_append, stated] at all
  obtain ⟨before, others, split, hbefore, hothers⟩ := List.exists_append_of_forall₂ all
  obtain ⟨made, after, rfl, hmade, hafter⟩ := List.exists_append_of_forall₂ hothers
  refine ⟨before, made, after, split, hmade, fun a ha => ?_⟩
  rcases List.mem_append.1 ha with ha | ha
  · obtain ⟨i, hi, stated⟩ := List.exists_mem_of_forall₂ hbefore ha
    have bounds := List.mem_range'_1.1 (List.mem_filter.1 hi).1
    exact ⟨i, .inl (by omega), stated⟩
  · obtain ⟨i, hi, stated⟩ := List.exists_mem_of_forall₂ hafter ha
    have bounds := List.mem_range'_1.1 (List.mem_filter.1 hi).1
    exact ⟨i, .inr (by omega), stated⟩

/-- Line by line, the assertions of a document are what those of its lines state that are assertion
lines and below another line; a header above them loses none. -/
theorem forall₂_ofDocument (content : Text) :
    List.Forall₂ (StatedBy (Text.lines content))
        ((List.range (Text.lines content).length).filter (isStated (Text.lines content)))
        (ofDocument content) ∧
      ((Header.read? content).isSome →
        (ofDocument content).length = (Text.lines content).countP isAccepted) := by
  constructor
  · rw [List.range_eq_range']
    exact forall₂_ofLinesFrom rfl fun j hj => absurd hj (Nat.not_lt_zero j)
  · intro h
    obtain ⟨header, h⟩ := Option.isSome_iff_exists.1 h
    exact length_ofDocument_of_header h

end Assertion
end SchemeCheck
