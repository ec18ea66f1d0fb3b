import SchemeCheck.Fixture.AssertionLine
import SchemeCheck.Proofs.Text.Case
import SchemeCheck.Proofs.Text.Cut
set_option autoImplicit false

namespace SchemeCheck

/-- The first carets of `t` are `count` in a row between `before` and `after`. -/
structure CaretRun (t before : Text) (count : Nat) (after : Text) : Prop where
  text_eq : t = before ++ (List.replicate count '^' ++ after)
  count_pos : 0 < count
  not_mem_before : '^' ∉ before
  head?_after : after.head? ≠ some '^'

namespace CaretRun

theorem span_before {t before after : Text} {count : Nat} (h : CaretRun t before count after) :
    t.takeWhile (· != '^') = before ∧
      t.dropWhile (· != '^') = List.replicate count '^' ++ after := by
  obtain ⟨rfl, pos, free, -⟩ := h
  obtain ⟨k, rfl⟩ := Nat.exists_eq_succ_of_ne_zero (Nat.pos_iff_ne_zero.1 pos)
  exact Text.span_append (Text.bne_of_not_mem free) (by simp [List.replicate_succ])

theorem span_caret {after : Text} (h : after.head? ≠ some '^') (count : Nat) :
    (List.replicate count '^' ++ after).takeWhile (· == '^') = List.replicate count '^' ∧
      (List.replicate count '^' ++ after).dropWhile (· == '^') = after := by
  refine Text.span_append (fun c hc => by simp [List.eq_of_mem_replicate hc]) fun c hc => ?_
  have : c ≠ '^' := fun same => h (same ▸ hc)
  simpa using this

theorem unique {t b b' a a' : Text} {n n' : Nat} (h : CaretRun t b n a) (h' : CaretRun t b' n' a') :
    b = b' ∧ n = n' := by
  have before := h.span_before.1.symm.trans h'.span_before.1
  have rest := h.span_before.2.symm.trans h'.span_before.2
  have carets := congrArg (List.takeWhile (· == '^')) rest
  rw [(span_caret h.head?_after _).1, (span_caret h'.head?_after _).1] at carets
  exact ⟨before, by simpa using congrArg List.length carets⟩

theorem leading_carets (t : Text) :
    t = List.replicate (t.takeWhile (· == '^')).length '^' ++ t.dropWhile (· == '^') ∧
      (t.dropWhile (· == '^')).head? ≠ some '^' := by
  have all : t.takeWhile (· == '^') = List.replicate (t.takeWhile (· == '^')).length '^' :=
    List.eq_replicate_iff.2 ⟨rfl, fun c hc => by simpa using List.mem_takeWhile_imp hc⟩
  refine ⟨by rw [← all, List.takeWhile_append_dropWhile], fun head => ?_⟩
  have := List.head?_dropWhile_not (· == '^') t
  rw [head] at this
  simp at this

theorem exists_of_mem {t : Text} (h : '^' ∈ t) : ∃ b n a, CaretRun t b n a := by
  obtain ⟨b, rest, rfl, hb⟩ := List.eq_append_cons_of_mem h
  obtain ⟨hrest, head⟩ := leading_carets rest
  refine ⟨b, (rest.takeWhile (· == '^')).length + 1, rest.dropWhile (· == '^'), ?_,
    Nat.succ_pos _, hb, head⟩
  rw [List.replicate_succ, List.cons_append, ← hrest]

theorem column_of_caret {t before after : Text} {count column : Nat} (h : CaretRun t before count after)
    (free : '^' ∉ after) (hc : t[column]? = some '^') :
    before.length ≤ column ∧ column < before.length + count := by
  obtain ⟨rfl, -, hb, -⟩ := h
  by_cases low : column < before.length
  · rw [List.getElem?_append_left low] at hc
    exact absurd (List.mem_of_getElem? hc) hb
  · rw [List.getElem?_append_right (Nat.le_of_not_lt low)] at hc
    refine ⟨Nat.le_of_not_lt low, Nat.lt_of_not_le fun high => ?_⟩
    rw [List.getElem?_append_right (by rw [List.length_replicate]; omega)] at hc
    exact free (List.mem_of_getElem? hc)

theorem append {t b a : Text} {n : Nat} (h : CaretRun t b n a) {tail : Text} (free : '^' ∉ tail) :
    CaretRun (t ++ tail) b n (a ++ tail) := by
  obtain ⟨rfl, pos, hb, ha⟩ := h
  refine ⟨by simp, pos, hb, ?_⟩
  cases a with
  | nil => exact fun head => free (List.mem_of_mem_head? head)
  | cons c a => simpa using ha

theorem plain_caret : Case.IsPlain '^' := by decide

theorem lower {t b a : Text} {n : Nat} (h : CaretRun t b n a) :
    ∃ seen beyond, CaretRun (Text.lower t) (Case.lowerBetween [] beyond b) n
      (Case.lowerBetween seen [] a) := by
  obtain ⟨rfl, pos, hb, ha⟩ := h
  let beyond := List.replicate n '^' ++ a
  let seen := (List.replicate n '^').reverse ++ b.reverse
  refine ⟨seen, beyond, ?_, pos, ?_, ?_⟩
  · rw [Text.lower_eq_lowerBetween, Case.lowerBetween_append, Case.lowerBetween_append,
      Case.lowerBetween_isLower fun c hc => List.eq_of_mem_replicate hc ▸ plain_caret.isLower]
    simp [beyond, seen]
  · rwa [Case.mem_lowerBetween plain_caret]
  · rwa [Ne, Case.head?_lowerBetween plain_caret]

end CaretRun

theorem CommentOpener.text_append_of_read? {t rest : Text} {o : CommentOpener}
    (h : read? t = some (o, rest)) : t = o.text ++ rest := by
  obtain ⟨o', -, ho⟩ := List.exists_of_findSome?_eq_some h
  obtain ⟨r, hr, he⟩ := Option.map_eq_some_iff.1 ho
  cases he
  exact Text.after?_eq_some_iff.1 hr

theorem CommentOpener.read?_text_append (o : CommentOpener) (rest : Text) :
    read? (o.text ++ rest) = some (o, rest) := by
  cases o <;> simp [read?, all, text, Text.after?]

namespace AssertionLine

def OpensComment (c : Char) : Prop := isBlank c ∨ ∃ o : CommentOpener, c ∈ o.text

theorem not_opensComment_caret : ¬ OpensComment '^' := by
  rintro (h | ⟨o, h⟩)
  · exact absurd h (by decide)
  · cases o <;> exact absurd h (by decide)

theorem not_opensComment_c : ¬ OpensComment 'c' := by
  rintro (h | ⟨o, h⟩)
  · exact absurd h (by decide)
  · cases o <;> exact absurd h (by decide)

def Opening (before : Text) : Prop :=
  ∃ (indent gap : Text) (o : CommentOpener), before = indent ++ (o.text ++ gap) ∧
    (∀ c ∈ indent, isBlank c) ∧ ∀ c ∈ gap, isBlank c

theorem Opening.opensComment {before : Text} (h : Opening before) : ∀ c ∈ before, OpensComment c := by
  obtain ⟨indent, gap, o, rfl, hindent, hgap⟩ := h
  intro c hc
  rcases List.mem_append.1 hc with hc | hc
  · exact .inl (hindent c hc)
  · rcases List.mem_append.1 hc with hc | hc
    · exact .inr ⟨o, hc⟩
    · exact .inl (hgap c hc)

theorem Opening.not_mem_caret {before : Text} (h : Opening before) : '^' ∉ before :=
  fun hc => not_opensComment_caret (h.opensComment _ hc)

theorem readCarets?_eq_some_iff {t rest : Text} {n : Nat} :
    readCarets? t = some (n, rest) ↔ ∃ before, Opening before ∧ CaretRun t before n rest := by
  constructor
  · intro h
    unfold readCarets? at h
    split at h
    · simp at h
    · next o body ho =>
      obtain ⟨indent, ht, hindent⟩ := Text.trimStart_append t
      obtain ⟨gap, hbody, hgap⟩ := Text.trimStart_append body
      have hopen := CommentOpener.text_append_of_read? ho
      generalize Text.trimStart body = carets at h hbody
      dsimp only at h
      split at h
      · simp at h
      · next ne =>
        simp only [Option.some.injEq, Prod.mk.injEq] at h
        obtain ⟨rfl, rfl⟩ := h
        have opening : Opening (indent ++ (o.text ++ gap)) := ⟨indent, gap, o, rfl, hindent, hgap⟩
        obtain ⟨hcarets, head⟩ := CaretRun.leading_carets carets
        refine ⟨_, opening, ?_, List.length_pos_iff.2 ne, opening.not_mem_caret, head⟩
        rw [← hcarets]
        conv => lhs; rw [ht, hopen, hbody]
        simp only [List.append_assoc]
  · rintro ⟨-, ⟨indent, gap, o, rfl, hindent, hgap⟩, ⟨rfl, pos, -, head⟩⟩
    obtain ⟨k, rfl⟩ := Nat.exists_eq_succ_of_ne_zero (Nat.pos_iff_ne_zero.1 pos)
    have opens : ∀ t, Text.trimStart (o.text ++ t) = o.text ++ t := by
      intro t
      cases o <;> rfl
    have caret : Text.trimStart (List.replicate (k + 1) '^' ++ rest) =
        List.replicate (k + 1) '^' ++ rest := rfl
    rw [readCarets?, List.append_assoc, Text.trimStart_blanks hindent, List.append_assoc, opens,
      CommentOpener.read?_text_append]
    dsimp only
    obtain ⟨taken, left⟩ := CaretRun.span_caret head (k + 1)
    rw [Text.trimStart_blanks hgap, caret, taken, left, if_neg (by simp), List.length_replicate]

theorem normalize_append (line : Text) : ∃ tail, Text.lower line = normalize line ++ tail ∧ '^' ∉ tail := by
  obtain ⟨tail₁, h₁, free₁⟩ := Text.dropEndWhile_append [' ', '-', '>'].contains (Text.lower line)
  obtain ⟨tail₂, h₂, free₂⟩ := Text.dropEndWhile_append [' ', '*', '/'].contains
    (Text.dropEndWhile [' ', '-', '>'].contains (Text.lower line))
  refine ⟨tail₂ ++ tail₁, ?_, ?_⟩
  · rw [normalize, ← List.append_assoc, ← h₂, ← h₁]
  · intro h
    rcases List.mem_append.1 h with h | h
    · exact absurd (free₂ _ h) (by decide)
    · exact absurd (free₁ _ h) (by decide)

theorem read?_eq_some_ofClauses {line : Text} {parsed : AssertionLine} :
    read? line = some parsed ↔ ∃ carets rest clauses,
      readCarets? (normalize line) = some (carets, rest) ∧ (rest = [] ∨ rest.head? = some ' ') ∧
      Clause.readAll? (Text.fields (· == ' ') rest) = some clauses ∧
      parsed = ofClauses (normalize line) carets clauses := by
  unfold read?
  dsimp only
  constructor
  · intro h
    split at h
    · simp at h
    · next carets rest hcarets =>
      split at h
      · next start =>
        obtain ⟨clauses, hclauses, rfl⟩ := Option.map_eq_some_iff.1 h
        exact ⟨carets, rest, clauses, hcarets, start, hclauses, rfl⟩
      · simp at h
  · rintro ⟨carets, rest, clauses, hcarets, start, hclauses, rfl⟩
    rw [hcarets]
    dsimp only
    rw [if_pos start, hclauses, Option.map_some]

theorem mem_lowerBetween_capital {t seen beyond : Text} (h : 'C' ∈ t) :
    'c' ∈ Case.lowerBetween seen beyond t := by
  induction t generalizing seen with
  | nil => simp at h
  | cons c t ih =>
    rw [Case.lowerBetween, List.mem_append]
    rcases List.mem_cons.1 h with rfl | h
    · exact .inl (by simp [Case.lowerImage, Case.lowerChar])
    · exact .inr (ih h)

/-- The carets that are counted are the first carets of the line as it stands, and no capital C
stands before them. -/
theorem run_of_read? {line : Text} {parsed : AssertionLine} (h : read? line = some parsed) :
    ∃ before after, CaretRun line before parsed.carets after ∧ 'C' ∉ before := by
  obtain ⟨carets, rest, clauses, hcarets, -, -, rfl⟩ := read?_eq_some_ofClauses.1 h
  obtain ⟨opening, hopening, hrun⟩ := readCarets?_eq_some_iff.1 hcarets
  obtain ⟨tail, htail, free⟩ := normalize_append line
  have lowerRun := hrun.append free
  rw [← htail] at lowerRun
  have caret : '^' ∈ Text.lower line := by
    rw [lowerRun.text_eq]
    simp [Nat.pos_iff_ne_zero.1 lowerRun.count_pos]
  rw [Text.lower_eq_lowerBetween, Case.mem_lowerBetween CaretRun.plain_caret] at caret
  obtain ⟨before, n, after, run⟩ := CaretRun.exists_of_mem caret
  obtain ⟨seen, beyond, run'⟩ := run.lower
  obtain ⟨hbefore, rfl⟩ := run'.unique lowerRun
  refine ⟨before, after, run, fun hC => ?_⟩
  exact not_opensComment_c (hopening.opensComment _ (hbefore ▸ mem_lowerBetween_capital hC))

end AssertionLine
end SchemeCheck
