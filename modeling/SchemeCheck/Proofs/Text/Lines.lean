import SchemeCheck.Text.Basic
set_option autoImplicit false

namespace SchemeCheck.Text

def withoutReturn (line : Text) : Text := (before? ['\r'] line).getD line

def AtLineEnd (t : Text) : Prop := t = [] ∨ (∃ rest, t = '\n' :: rest) ∨ ∃ rest, t = '\r' :: '\n' :: rest

theorem linesWithEnds_cons_line {line : Text} (h : '\n' ∉ line) (rest : Text) :
    linesWithEnds (line ++ '\n' :: rest) = (line ++ ['\n']) :: linesWithEnds rest := by
  induction line with
  | nil => simp [linesWithEnds]
  | cons c line ih =>
    have hc : c ≠ '\n' := fun e => h (e ▸ List.mem_cons_self)
    have hline : '\n' ∉ line := fun m => h (List.mem_cons_of_mem _ m)
    simp [linesWithEnds, hc, ih hline]

theorem linesWithEnds_single {line : Text} (h : '\n' ∉ line) (ne : line ≠ []) :
    linesWithEnds line = [line] := by
  induction line with
  | nil => exact absurd rfl ne
  | cons c line ih =>
    have hc : c ≠ '\n' := fun e => h (e ▸ List.mem_cons_self)
    have hline : '\n' ∉ line := fun m => h (List.mem_cons_of_mem _ m)
    cases line with
    | nil => simp [linesWithEnds, hc]
    | cons d line => rw [linesWithEnds, if_neg hc, ih hline (by simp)]

theorem dropLineEnd_newline (line : Text) : dropLineEnd (line ++ ['\n']) = withoutReturn line := by
  have h : before? ['\n'] (line ++ ['\n']) = some line := before?_eq_some_iff.2 rfl
  rw [dropLineEnd, h, withoutReturn]

theorem dropLineEnd_of_not_mem {line : Text} (h : '\n' ∉ line) : dropLineEnd line = line := by
  cases hb : before? ['\n'] line with
  | none => rw [dropLineEnd, hb]
  | some body =>
    have := before?_eq_some_iff.1 hb
    subst this
    simp at h

@[simp] theorem lines_nil : lines [] = [] := rfl

theorem lines_cons_line {line : Text} (h : '\n' ∉ line) (rest : Text) :
    lines (line ++ '\n' :: rest) = withoutReturn line :: lines rest := by
  rw [lines, linesWithEnds_cons_line h, List.map_cons, dropLineEnd_newline, lines]

theorem lines_single {line : Text} (h : '\n' ∉ line) (ne : line ≠ []) : lines line = [line] := by
  rw [lines, linesWithEnds_single h ne, List.map_singleton, dropLineEnd_of_not_mem h]

theorem lines_eq_nil_iff {t : Text} : lines t = [] ↔ t = [] := by
  constructor
  · intro h
    by_cases hn : '\n' ∈ t
    · obtain ⟨line, rest, rfl, hline⟩ := List.eq_append_cons_of_mem hn
      simp [lines_cons_line hline] at h
    · by_cases ne : t = []
      · exact ne
      · simp [lines_single hn ne] at h
  · rintro rfl
    rfl

theorem withoutReturn_append (line : Text) :
    line = withoutReturn line ∨ line = withoutReturn line ++ ['\r'] := by
  cases h : before? ['\r'] line with
  | none => simp [withoutReturn, h]
  | some body =>
    right
    simpa [withoutReturn, h] using before?_eq_some_iff.1 h

theorem not_mem_withoutReturn {c : Char} {line : Text} (h : c ∉ line) : c ∉ withoutReturn line := by
  intro inside
  rcases withoutReturn_append line with same | ends
  · exact h (same ▸ inside)
  · exact h (ends ▸ List.mem_append_left _ inside)

theorem withoutReturn_eq_self {line : Text} (h : line.getLast? ≠ some '\r') :
    withoutReturn line = line := by
  rcases withoutReturn_append line with same | ends
  · exact same.symm
  · rw [ends] at h
    simp at h

theorem withoutReturn_eq_self_iff {line : Text} :
    withoutReturn line = line ↔ line.getLast? ≠ some '\r' := by
  refine ⟨fun same last => ?_, withoutReturn_eq_self⟩
  obtain ⟨body, rfl⟩ := List.getLast?_eq_some_iff.1 last
  rw [withoutReturn, before?_eq_some_iff.2 rfl, Option.getD_some] at same
  simpa using congrArg List.length same

def IsLines (t : Text) : Prop := ∀ c ∈ t.getLast?, c = '\n'

theorem IsLines.append {s t : Text} (hs : IsLines s) (ht : IsLines t) : IsLines (s ++ t) := by
  intro c hc
  rw [List.getLast?_append] at hc
  cases last : t.getLast? with
  | none => exact hs c (by simpa [last] using hc)
  | some d => exact ht c (by simpa [last] using hc)

def lineEnds : List Text := [[], ['\n'], ['\r', '\n']]

theorem exists_below_of_lines_eq_cons {t first : Text} {others : List Text}
    (h : lines t = first :: others) : ∃ ending ∈ lineEnds, ∃ below, t = first ++ (ending ++ below) ∧
      AtLineEnd (ending ++ below) ∧ lines below = others := by
  by_cases hn : '\n' ∈ t
  · obtain ⟨line, rest, rfl, hline⟩ := List.eq_append_cons_of_mem hn
    rw [lines_cons_line hline] at h
    obtain ⟨rfl, below⟩ := List.cons.inj h
    rcases withoutReturn_append line with same | ends
    · exact ⟨['\n'], by simp [lineEnds], rest, by rw [← same]; rfl, .inr (.inl ⟨rest, rfl⟩), below⟩
    · refine ⟨['\r', '\n'], by simp [lineEnds], rest, ?_, .inr (.inr ⟨rest, rfl⟩), below⟩
      conv => lhs; rw [ends]
      simp
  · have ne : t ≠ [] := fun e => by simp [e] at h
    rw [lines_single hn ne] at h
    obtain ⟨rfl, rfl⟩ := List.cons.inj h
    exact ⟨[], by simp [lineEnds], [], by simp, .inl rfl, lines_nil⟩

theorem exists_atLineEnd_of_lines_eq_cons {t first : Text} {others : List Text}
    (h : lines t = first :: others) : ∃ rest, t = first ++ rest ∧ AtLineEnd rest := by
  obtain ⟨ending, -, below, split, atEnd, -⟩ := exists_below_of_lines_eq_cons h
  exact ⟨ending ++ below, split, atEnd⟩

theorem not_mem_lineEnd {c : Char} (feed : c ≠ '\n') (back : c ≠ '\r') {ending : Text}
    (h : ending ∈ lineEnds) : c ∉ ending := by
  simp only [lineEnds, List.mem_cons, List.not_mem_nil, or_false] at h
  rcases h with rfl | rfl | rfl <;> simp [feed, back]

theorem AtLineEnd.mem {c : Char} (feed : c ≠ '\n') (back : c ≠ '\r') {above below : Text}
    (h : AtLineEnd (above ++ c :: below)) : '\n' ∈ above := by
  rcases above with _ | ⟨d, _ | ⟨e, above⟩⟩
  · simp [AtLineEnd, feed, back] at h
  · have first : d = '\n' := by simpa [AtLineEnd, feed] using h
    simp [first]
  · have either : d = '\n' ∨ d = '\r' ∧ e = '\n' := by simpa [AtLineEnd] using h
    rcases either with first | ⟨-, second⟩
    · simp [first]
    · simp [second]

theorem mem_iff_mem_lines {c : Char} (feed : c ≠ '\n') (back : c ≠ '\r') {t : Text} :
    c ∈ t ↔ ∃ line ∈ lines t, c ∈ line := by
  induction hn : (lines t).length generalizing t with
  | zero =>
    have empty := List.length_eq_zero_iff.1 hn
    rw [lines_eq_nil_iff] at empty
    simp [empty]
  | succ n ih =>
    obtain ⟨first, others, hl⟩ := List.exists_cons_of_length_eq_add_one hn
    obtain ⟨ending, hending, below, rfl, -, rfl⟩ := exists_below_of_lines_eq_cons hl
    rw [hl, List.length_cons, Nat.add_right_cancel_iff] at hn
    simp [hl, not_mem_lineEnd feed back hending, ih hn]

def firstLine (t : Text) : Text := (lines t).headD []

theorem exists_firstLine_append (t : Text) :
    '\n' ∉ firstLine t ∧ ∃ rest, t = firstLine t ++ rest ∧ AtLineEnd rest := by
  unfold firstLine
  by_cases hn : '\n' ∈ t
  · obtain ⟨line, rest, rfl, hline⟩ := List.eq_append_cons_of_mem hn
    obtain ⟨after, split, ending⟩ := exists_atLineEnd_of_lines_eq_cons (lines_cons_line hline rest)
    rw [lines_cons_line hline, List.headD_cons]
    exact ⟨not_mem_withoutReturn hline, after, split, ending⟩
  · by_cases ne : t = []
    · rw [ne]
      exact ⟨List.not_mem_nil, [], rfl, .inl rfl⟩
    · rw [lines_single hn ne]
      exact ⟨hn, [], by simp, .inl rfl⟩

/-- What holds no line feed and does not end with a carriage return goes over no line end. -/
theorem exists_append_of_atLineEnd {start rest line after : Text} (h : start ++ rest = line ++ after)
    (ending : AtLineEnd after) (free : '\n' ∉ start) (last : start.getLast? ≠ some '\r') :
    ∃ rest', line = start ++ rest' ∧ rest = rest' ++ after := by
  rcases List.append_eq_append_iff.1 h with ⟨rest', hline, hrest⟩ | ⟨beyond, hstart, hafter⟩
  · exact ⟨rest', hline, hrest⟩
  · rcases beyond with _ | ⟨c, beyond⟩
    · exact ⟨[], by simpa using hstart.symm, by simpa using hafter.symm⟩
    · -- What goes over the line begins with its end, which is a single carriage return.
      rcases ending with none | ⟨below, single⟩ | ⟨below, double⟩
      · rw [none] at hafter
        contradiction
      · rw [single] at hafter
        obtain ⟨rfl, -⟩ := List.cons.inj hafter
        exact absurd (by simp [hstart]) free
      · rw [double] at hafter
        obtain ⟨rfl, hbeyond⟩ := List.cons.inj hafter
        rcases beyond with _ | ⟨d, beyond⟩
        · exact absurd (by simp [hstart]) last
        · obtain ⟨rfl, -⟩ := List.cons.inj hbeyond
          exact absurd (by simp [hstart]) free

theorem exists_append_of_getLast? {start rest line after : Text} {c : Char}
    (h : start ++ rest = line ++ after) (last : start.getLast? = some c) (free : c ∉ after) :
    ∃ rest', line = start ++ rest' := by
  rcases List.append_eq_append_iff.1 h with ⟨rest', hline, -⟩ | ⟨beyond, hstart, hafter⟩
  · exact ⟨rest', hline⟩
  · rcases List.eq_nil_or_concat beyond with rfl | ⟨inner, d, rfl⟩
    · exact ⟨[], by simpa using hstart.symm⟩
    · rw [hstart] at last
      obtain rfl : d = c := by simpa [List.getLast?_append] using last
      exact absurd (by simp [hafter]) free

/-- A line that joining with line feeds neither ends nor changes. -/
def IsWholeLine (line : Text) : Prop := '\n' ∉ line ∧ line ≠ [] ∧ line.getLast? ≠ some '\r'

theorem lines_intercalate {ls : List Text} (h : ∀ line ∈ ls, IsWholeLine line) :
    lines (['\n'].intercalate ls) = ls := by
  induction ls with
  | nil => rfl
  | cons line ls ih =>
    obtain ⟨hn, ne, hr⟩ := h line List.mem_cons_self
    have rest := ih fun l m => h l (List.mem_cons_of_mem _ m)
    cases ls with
    | nil => simpa using lines_single hn ne
    | cons next ls =>
      rw [List.intercalate_cons_cons, List.append_assoc, List.singleton_append, lines_cons_line hn,
        rest, withoutReturn_eq_self hr]

/-! ## Lines put between others -/

def throughRow (row : Nat) (t : Text) : Text :=
  ((linesWithEnds t).take row).flatten ++ (lines t)[row]?.getD []

/-- `t'` is `t` with some lines below `row`. -/
structure InsertedBelow (row : Nat) (inserted : List Text) (t t' : Text) : Prop where
  lines_eq : lines t' = (lines t).take (row + 1) ++ (inserted ++ (lines t).drop (row + 1))
  through_eq : throughRow row t' = throughRow row t

theorem InsertedBelow.lines_cons {row : Nat} {inserted others : List Text} {t t' first : Text}
    (h : InsertedBelow row inserted t t') (hl : lines t = first :: others) :
    lines t' = first :: (others.take row ++ (inserted ++ others.drop row)) := by
  rw [h.lines_eq, hl]
  rfl

theorem InsertedBelow.firstLine_eq {row : Nat} {inserted : List Text} {t t' : Text}
    (h : InsertedBelow row inserted t t') (ne : t ≠ []) : firstLine t' = firstLine t := by
  obtain ⟨first, others, hl⟩ := List.exists_cons_of_ne_nil (mt lines_eq_nil_iff.1 ne)
  rw [firstLine, firstLine, h.lines_cons hl, hl]
  rfl

theorem InsertedBelow.exists_below {row : Nat} {inserted : List Text} {t t' : Text}
    (h : InsertedBelow row inserted t t') (ne : t ≠ []) :
    ∃ after after', t = firstLine t ++ after ∧ AtLineEnd after ∧ t' = firstLine t ++ after' ∧
      AtLineEnd after' ∧ ∀ c, c ≠ '\n' → c ≠ '\r' → c ∈ after' →
        c ∈ after ∨ ∃ line ∈ inserted, c ∈ line := by
  obtain ⟨first, others, hl⟩ := List.exists_cons_of_ne_nil (mt lines_eq_nil_iff.1 ne)
  have hl' := h.lines_cons hl
  rw [firstLine, hl, List.headD_cons]
  obtain ⟨ending, -, below, split, atEnd, hbelow⟩ := exists_below_of_lines_eq_cons hl
  obtain ⟨ending', hending', below', split', atEnd', hbelow'⟩ := exists_below_of_lines_eq_cons hl'
  refine ⟨_, _, split, atEnd, split', atEnd', fun c feed back inside => ?_⟩
  have below := (List.mem_append.1 inside).resolve_left (not_mem_lineEnd feed back hending')
  rw [mem_iff_mem_lines feed back, hbelow'] at below
  obtain ⟨line, hline, hc⟩ := below
  have old (member : line ∈ others) : c ∈ ending ++ below ∨ ∃ line ∈ inserted, c ∈ line := by
    refine .inl (List.mem_append_right _ ?_)
    rw [mem_iff_mem_lines feed back, hbelow]
    exact ⟨line, member, hc⟩
  rcases List.mem_append.1 hline with above | hline
  · exact old (List.mem_of_mem_take above)
  · rcases List.mem_append.1 hline with new | below
    · exact .inr ⟨line, new, hc⟩
    · exact old (List.mem_of_mem_drop below)

theorem throughRow_zero_line {line : Text} (h : '\n' ∉ line) (rest : Text) :
    throughRow 0 (line ++ '\n' :: rest) = withoutReturn line := by
  simp [throughRow, lines_cons_line h]

theorem throughRow_succ_line {line : Text} (h : '\n' ∉ line) (row : Nat) (rest : Text) :
    throughRow (row + 1) (line ++ '\n' :: rest) = line ++ '\n' :: throughRow row rest := by
  simp [throughRow, lines_cons_line h, linesWithEnds_cons_line h]

theorem lines_ended {ls : List Text} (h : ∀ line ∈ ls, IsWholeLine line) (rest : Text) :
    lines (ls.flatMap (· ++ ['\n']) ++ rest) = ls ++ lines rest := by
  induction ls with
  | nil => rfl
  | cons line ls ih =>
    obtain ⟨hn, -, hr⟩ := h line List.mem_cons_self
    have tail := ih fun l m => h l (List.mem_cons_of_mem _ m)
    rw [List.flatMap_cons, List.append_assoc, List.append_assoc, List.singleton_append,
      lines_cons_line hn, tail, withoutReturn_eq_self hr, List.cons_append]

theorem exists_insertedBelow {inserted : List Text} (h : ∀ line ∈ inserted, IsWholeLine line)
    {row : Nat} {t : Text} (hrow : row < (lines t).length) :
    ∃ t', InsertedBelow row inserted t t' := by
  induction row generalizing t with
  | zero =>
    by_cases hn : '\n' ∈ t
    · obtain ⟨line, rest, rfl, hline⟩ := List.eq_append_cons_of_mem hn
      refine ⟨line ++ '\n' :: (inserted.flatMap (· ++ ['\n']) ++ rest), ?_, ?_⟩
      · rw [lines_cons_line hline, lines_cons_line hline, lines_ended h]
        rfl
      · rw [throughRow_zero_line hline, throughRow_zero_line hline]
    · have ne : t ≠ [] := fun e => by simp [e] at hrow
      have free : '\n' ∉ t ++ ['\r'] := by simpa using hn
      have body : withoutReturn (t ++ ['\r']) = t := by
        rw [withoutReturn, before?_eq_some_iff.2 rfl, Option.getD_some]
      -- A carriage return before the line feed keeps one that the line may end with.
      refine ⟨(t ++ ['\r']) ++ '\n' :: (inserted.flatMap (· ++ ['\n']) ++ []), ?_, ?_⟩
      · rw [lines_cons_line free, lines_ended h, body, lines_single hn ne]
        rfl
      · rw [throughRow_zero_line free, body]
        simp [throughRow, lines_single hn ne]
  | succ row ih =>
    by_cases hn : '\n' ∈ t
    · obtain ⟨line, rest, rfl, hline⟩ := List.eq_append_cons_of_mem hn
      rw [lines_cons_line hline, List.length_cons] at hrow
      obtain ⟨rest', hlines, hthrough⟩ := ih (Nat.lt_of_succ_lt_succ hrow)
      refine ⟨line ++ '\n' :: rest', ?_, ?_⟩
      · rw [lines_cons_line hline, lines_cons_line hline, hlines]
        rfl
      · rw [throughRow_succ_line hline, throughRow_succ_line hline, hthrough]
    · have ne : t ≠ [] := fun e => by simp [e] at hrow
      rw [lines_single hn ne] at hrow
      simp at hrow

/-! ## Lines changed -/

/-- The text with one of its lines changed; `edit` sees the line with its end. -/
def editLine (row : Nat) (edit : Text → Text) (t : Text) : Text :=
  ((linesWithEnds t).modify row edit).flatten

/-- `edit` changes a line before its end, and not what the end is. -/
structure EditsInside (edit : Text → Text) (line : Text) : Prop where
  before_end : ∀ ending ∈ lineEnds, edit (line ++ ending) = edit line ++ ending
  ne_nil : edit line ≠ []
  noFeed : '\n' ∉ line → '\n' ∉ edit line
  noReturn : (edit line).getLast? = some '\r' → line.getLast? = some '\r'

theorem editLine_zero_line {line : Text} (h : '\n' ∉ line) (edit : Text → Text) (rest : Text) :
    editLine 0 edit (line ++ '\n' :: rest) = edit (line ++ ['\n']) ++ rest := by
  rw [editLine, linesWithEnds_cons_line h, List.modify_zero_cons, List.flatten_cons,
    flatten_linesWithEnds]

theorem editLine_succ_line {line : Text} (h : '\n' ∉ line) (row : Nat) (edit : Text → Text)
    (rest : Text) : editLine (row + 1) edit (line ++ '\n' :: rest) =
      line ++ '\n' :: editLine row edit rest := by
  rw [editLine, linesWithEnds_cons_line h, List.modify_succ_cons, List.flatten_cons, editLine]
  simp

theorem lines_editLine {edit : Text → Text} {row : Nat} {t line : Text}
    (hline : (lines t)[row]? = some line) (inside : EditsInside edit line) :
    ∃ above below, above.length = row ∧ lines t = above ++ line :: below ∧
      lines (editLine row edit t) = above ++ edit line :: below := by
  obtain ⟨before_end, ne, noFeed, noReturn⟩ := inside
  induction row generalizing t with
  | zero =>
    by_cases hn : '\n' ∈ t
    · obtain ⟨body, rest, rfl, hbody⟩ := List.eq_append_cons_of_mem hn
      rw [lines_cons_line hbody] at hline ⊢
      obtain rfl : withoutReturn body = line := by simpa using hline
      refine ⟨[], lines rest, rfl, rfl, ?_⟩
      rw [editLine_zero_line hbody, List.nil_append]
      replace noFeed := noFeed (not_mem_withoutReturn hbody)
      generalize hedited : edit (withoutReturn body) = edited at *
      rcases withoutReturn_append body with same | ends
      · have kept := before_end ['\n'] (by simp [lineEnds])
        have last := withoutReturn_eq_self_iff.1 same.symm
        rw [← same] at kept noReturn
        rw [kept, List.append_assoc, List.singleton_append, lines_cons_line noFeed,
          withoutReturn_eq_self (mt noReturn last)]
      · have kept := before_end ['\r', '\n'] (by simp [lineEnds])
        have split : body ++ ['\n'] = withoutReturn body ++ ['\r', '\n'] := by
          conv => lhs; rw [ends]
          simp
        have free : '\n' ∉ edited ++ ['\r'] := by simpa using noFeed
        have shape : edited ++ ['\r', '\n'] ++ rest = (edited ++ ['\r']) ++ '\n' :: rest := by simp
        rw [split, kept, shape, lines_cons_line free, withoutReturn,
          before?_eq_some_iff.2 rfl, Option.getD_some]
    · have some : t ≠ [] := fun e => by simp [e] at hline
      rw [lines_single hn some] at hline ⊢
      obtain rfl : t = line := by simpa using hline
      refine ⟨[], [], rfl, rfl, ?_⟩
      rw [editLine, linesWithEnds_single hn some]
      simpa using lines_single (noFeed hn) ne
  | succ row ih =>
    by_cases hn : '\n' ∈ t
    · obtain ⟨body, rest, rfl, hbody⟩ := List.eq_append_cons_of_mem hn
      rw [lines_cons_line hbody] at hline ⊢
      obtain ⟨above, below, length, hlines, hedited⟩ := ih hline
      refine ⟨withoutReturn body :: above, below, by simp [length], by simp [hlines], ?_⟩
      rw [editLine_succ_line hbody, lines_cons_line hbody, hedited, List.cons_append]
    · have some : t ≠ [] := fun e => by simp [e] at hline
      rw [lines_single hn some] at hline
      simp at hline

end SchemeCheck.Text
