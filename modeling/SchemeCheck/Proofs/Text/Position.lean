import SchemeCheck.Proofs.Text.Cut
import SchemeCheck.Proofs.Text.Lines
set_option autoImplicit false

namespace SchemeCheck.Text

theorem byteLength_pos {t : Text} (h : t ≠ []) : 0 < byteLength t := by
  cases t with
  | nil => exact absurd rfl h
  | cons c t =>
    have pos := c.utf8Size_pos
    rw [byteLength_cons]
    omega

theorem getElem?_lines (t : Text) (row : Nat) :
    (lines t)[row]? = ((linesWithEnds t)[row]?).map dropLineEnd := by
  rw [lines, List.getElem?_map]

theorem exists_lineEnd (line : Text) : ∃ ending, line = dropLineEnd line ++ ending := by
  cases feed : before? ['\n'] line with
  | none => exact ⟨[], by rw [dropLineEnd, feed, List.append_nil]⟩
  | some body =>
    have whole := before?_eq_some_iff.1 feed
    rcases withoutReturn_append body with same | returns
    · refine ⟨['\n'], ?_⟩
      rw [whole, dropLineEnd_newline, ← same]
    · refine ⟨['\r', '\n'], ?_⟩
      conv => lhs; rw [whole, returns]
      rw [whole, dropLineEnd_newline, List.append_assoc]
      rfl

/-- What stands before a column of a row. Past its last character that is the end of the row. -/
def upTo (row column : Nat) (t : Text) : Text :=
  ((linesWithEnds t).take row).flatten ++ ((lines t)[row]?.getD []).take column

section
variable {t chars : Text} {row column : Nat}

theorem upTo_of_line (h : (lines t)[row]? = some chars) (column : Nat) :
    upTo row column t = ((linesWithEnds t).take row).flatten ++ chars.take column := by
  rw [upTo, h, Option.getD_some]

theorem exists_line_of_lines (h : (lines t)[row]? = some chars) :
    ∃ ending, (linesWithEnds t)[row]? = some (chars ++ ending) := by
  rw [getElem?_lines] at h
  obtain ⟨whole, hwhole, rfl⟩ := Option.map_eq_some_iff.1 h
  obtain ⟨ending, split⟩ := exists_lineEnd whole
  exact ⟨ending, by rw [← split, hwhole]⟩

theorem take_succ_linesWithEnds {whole : Text} (h : (linesWithEnds t)[row]? = some whole) :
    ((linesWithEnds t).take (row + 1)).flatten = ((linesWithEnds t).take row).flatten ++ whole := by
  rw [List.take_add_one, h, Option.toList_some, List.flatten_append, List.flatten_singleton]

theorem exists_append_upTo {c : Char} (h : (lines t)[row]? = some chars) (hc : chars[column]? = some c) :
    ∃ rest, t = upTo row column t ++ c :: rest := by
  obtain ⟨ending, whole⟩ := exists_line_of_lines h
  have through := take_succ_linesWithEnds whole
  have split : chars = chars.take column ++ c :: chars.drop (column + 1) := by
    obtain ⟨inside, rfl⟩ := List.getElem?_eq_some_iff.1 hc
    rw [← List.drop_eq_getElem_cons inside, List.take_append_drop]
  refine ⟨chars.drop (column + 1) ++ (ending ++ ((linesWithEnds t).drop (row + 1)).flatten), ?_⟩
  calc
    t = ((linesWithEnds t).take (row + 1) ++ (linesWithEnds t).drop (row + 1)).flatten := by
      rw [List.take_append_drop, flatten_linesWithEnds]
    _ = ((linesWithEnds t).take row).flatten ++ (chars ++ ending) ++
          ((linesWithEnds t).drop (row + 1)).flatten := by rw [List.flatten_append, through]
    _ = upTo row column t ++
          c :: (chars.drop (column + 1) ++ (ending ++ ((linesWithEnds t).drop (row + 1)).flatten)) := by
      rw [upTo_of_line h]
      conv => lhs; rw [split]
      simp only [List.append_assoc, List.cons_append]

theorem byteLength_upTo_lt (h : (lines t)[row]? = some chars) (inside : column < chars.length)
    {row' column' : Nat} (later : row < row' ∨ row = row' ∧ column < column') :
    byteLength (upTo row column t) < byteLength (upTo row' column' t) := by
  suffices between : ∃ more, more ≠ [] ∧ upTo row' column' t = upTo row column t ++ more by
    obtain ⟨more, ne, split⟩ := between
    have pos := byteLength_pos ne
    rw [split, byteLength_append]
    omega
  have right : chars.drop column ≠ [] := by
    rw [ne_eq, List.drop_eq_nil_iff]
    omega
  rcases later with below | ⟨rfl, further⟩
  · obtain ⟨ending, whole⟩ := exists_line_of_lines h
    have through := take_succ_linesWithEnds whole
    have rows : (linesWithEnds t).take row' = (linesWithEnds t).take (row + 1) ++
        ((linesWithEnds t).drop (row + 1)).take (row' - (row + 1)) := by
      rw [← List.take_add]
      congr 1
      omega
    refine ⟨chars.drop column ++ (ending ++
      ((((linesWithEnds t).drop (row + 1)).take (row' - (row + 1))).flatten ++
        ((lines t)[row']?.getD []).take column')), ?_, ?_⟩
    · exact List.append_ne_nil_of_left_ne_nil right _
    · rw [upTo_of_line h, upTo, rows, List.flatten_append, through]
      conv => lhs; rw [← List.take_append_drop column chars]
      simp only [List.append_assoc]
  · refine ⟨(chars.drop column).take (column' - column), ?_, ?_⟩
    · rw [ne_eq, List.take_eq_nil_iff]
      rintro (none | none)
      · omega
      · exact right none
    · have columns : chars.take column' = chars.take column ++ (chars.drop column).take (column' - column) := by
        rw [← List.take_add]
        congr 1
        omega
      rw [upTo_of_line h, upTo_of_line h, columns, List.append_assoc]

end

/-! ## Rows between line feeds -/

def ReturnsEndLines (t : Text) : Prop :=
  ∀ before after, t = before ++ '\r' :: after → after.head? = some '\n'

theorem ReturnsEndLines.tail {line rest : Text} (h : ReturnsEndLines (line ++ '\n' :: rest)) :
    ReturnsEndLines rest := by
  rintro before after rfl
  exact h (line ++ '\n' :: before) after (by simp)

theorem ReturnsEndLines.dropEnd_line {line rest : Text} (h : ReturnsEndLines (line ++ '\n' :: rest)) :
    dropEndWhile (· == '\r') line = withoutReturn line := by
  cases returns : before? ['\r'] line with
  | none =>
    rw [withoutReturn, returns, Option.getD_none]
    refine dropEndWhile_eq_self fun c hc => beq_false_of_ne ?_
    rintro rfl
    obtain ⟨body, split⟩ := List.getLast?_eq_some_iff.1 hc
    rw [before?_eq_some_iff.2 split] at returns
    cases returns
  | some body =>
    rw [withoutReturn, returns, Option.getD_some]
    obtain rfl := before?_eq_some_iff.1 returns
    rw [dropEndWhile_append_all (by simp)]
    refine dropEndWhile_eq_self fun c hc => beq_false_of_ne ?_
    rintro rfl
    -- Two carriage returns in a row: the first of them ends no line.
    obtain ⟨start, rfl⟩ := List.getLast?_eq_some_iff.1 hc
    have followed := h start ('\r' :: '\n' :: rest) (by simp)
    cases followed

theorem ReturnsEndLines.dropEnd_last {t : Text} (h : ReturnsEndLines t) (free : '\n' ∉ t) :
    dropEndWhile (· == '\r') t = t := by
  refine dropEndWhile_eq_self fun c hc => beq_false_of_ne ?_
  rintro rfl
  obtain ⟨start, rfl⟩ := List.getLast?_eq_some_iff.1 hc
  have followed := h start [] rfl
  cases followed

def rowBytes (rows : List Text) : Nat := rows.foldr (fun row n => byteLength row + 1 + n) 0

theorem row_of_line {t line : Text} {row : Nat} (h : (lines t)[row]? = some line)
    (returns : ReturnsEndLines t) :
    ((split (· == '\n') t)[row]?).map (dropEndWhile (· == '\r')) = some line ∧
      rowBytes ((split (· == '\n') t).take row) =
        byteLength ((linesWithEnds t).take row).flatten := by
  induction row generalizing t with
  | zero =>
    refine ⟨?_, rfl⟩
    by_cases feed : '\n' ∈ t
    · obtain ⟨first, rest, rfl, free⟩ := List.eq_append_cons_of_mem feed
      rw [lines_cons_line free] at h
      rw [split_append_sep free]
      exact (congrArg some returns.dropEnd_line).trans h
    · have ne : t ≠ [] := fun e => by simp [e] at h
      rw [lines_single feed ne] at h
      rw [split_of_not_mem feed]
      exact (congrArg some (returns.dropEnd_last feed)).trans h
  | succ row ih =>
    by_cases feed : '\n' ∈ t
    · obtain ⟨first, rest, rfl, free⟩ := List.eq_append_cons_of_mem feed
      rw [lines_cons_line free] at h
      obtain ⟨found, bytes⟩ := ih h returns.tail
      rw [split_append_sep free, linesWithEnds_cons_line free]
      refine ⟨found, ?_⟩
      have feed_size : byteLength ['\n'] = 1 := rfl
      rw [List.take_succ_cons, List.take_succ_cons, List.flatten_cons, byteLength_append,
        byteLength_append, feed_size, ← bytes]
      rfl
    · have ne : t ≠ [] := fun e => by simp [e] at h
      rw [lines_single feed ne] at h
      simp at h

end SchemeCheck.Text
