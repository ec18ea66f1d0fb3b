import SchemeCheck.Glob
set_option autoImplicit false

namespace SchemeCheck.Glob

def IsLiteral (c : Char) : Prop := c ≠ '*' ∧ c ≠ '?' ∧ c ≠ '['

instance (c : Char) : Decidable (IsLiteral c) := inferInstanceAs (Decidable (_ ∧ _ ∧ _))

theorem readTokens?_literal {c : Char} (h : IsLiteral c) (atComponent : Bool) (t : Text) :
    readTokens? atComponent (c :: t) = (readTokens? (c == '/') t).map (.char c :: ·) := by
  obtain ⟨star, mark, bracket⟩ := h
  rw [readTokens?]
  all_goals simp_all

theorem readTokens?_append {start : Text} (h : ∀ c ∈ start, IsLiteral c) (atComponent : Bool)
    (t : Text) : ∃ atComponent',
      readTokens? atComponent (start ++ t) =
        (readTokens? atComponent' t).map (start.map Token.char ++ ·) := by
  induction start generalizing atComponent with
  | nil => exact ⟨atComponent, by simp⟩
  | cons c start ih =>
    obtain ⟨atComponent', rest⟩ := ih (fun d hd => h d (List.mem_cons_of_mem _ hd)) (c == '/')
    refine ⟨atComponent', ?_⟩
    rw [List.cons_append, readTokens?_literal (h c List.mem_cons_self), rest, Option.map_map]
    rfl

theorem accepts_append_iff {start name : Text} {tokens : List Token} :
    accepts (start.map Token.char ++ tokens) name = true ↔
      ∃ rest, name = start ++ rest ∧ accepts tokens rest = true := by
  induction start generalizing name with
  | nil => simp
  | cons c start ih =>
    cases name with
    | nil => simp [accepts]
    | cons d name =>
      simp only [List.map_cons, List.cons_append, accepts, Token.accepts, Bool.and_eq_true,
        beq_iff_eq, ih, List.cons.injEq, and_assoc, exists_and_left, eq_comm (a := c)]

/-- A pattern begins each name that matches it, as far as it is literal. -/
theorem exists_append_of_isMatch {start t name : Text} (h : ∀ c ∈ start, IsLiteral c)
    (hmatch : isMatch (start ++ t) name = true) : ∃ rest, name = start ++ rest := by
  obtain ⟨atComponent, read⟩ := readTokens?_append h true t
  unfold isMatch at hmatch
  rw [read] at hmatch
  cases htokens : readTokens? atComponent t with
  | none =>
    simp only [htokens, Option.map_none, decide_eq_true_eq] at hmatch
    exact ⟨t, hmatch.symm⟩
  | some tokens =>
    simp only [htokens, Option.map_some] at hmatch
    obtain ⟨rest, hname, -⟩ := accepts_append_iff.1 hmatch
    exact ⟨rest, hname⟩

theorem isMatch_literal {pattern : Text} (h : ∀ c ∈ pattern, IsLiteral c) (name : Text) :
    isMatch pattern name = true ↔ name = pattern := by
  obtain ⟨atComponent, read⟩ := readTokens?_append h true []
  simp only [List.append_nil, readTokens?, Option.map_some] at read
  have accepted : accepts (pattern.map Token.char ++ []) name = true ↔ _ := accepts_append_iff
  simpa [isMatch, read, accepts] using accepted

theorem nil_mem_suffixes (t : Text) : [] ∈ Text.suffixes t := by
  induction t with
  | nil => simp [Text.suffixes]
  | cons c t ih => simp [Text.suffixes, ih]

theorem isMatch_star {start : Text} (h : ∀ c ∈ start, IsLiteral c) (rest : Text) :
    isMatch (start ++ ['*']) (start ++ rest) = true := by
  obtain ⟨atComponent, read⟩ := readTokens?_append h true ['*']
  have star : readTokens? atComponent ['*'] = some [.anyText] := by simp [readTokens?]
  have accepted : accepts [.anyText] rest = true := by
    rw [accepts, List.any_eq_true]
    exact ⟨[], nil_mem_suffixes rest, rfl⟩
  rw [star, Option.map_some] at read
  unfold isMatch
  simp only [read]
  exact accepts_append_iff.2 ⟨rest, rfl, accepted⟩

end SchemeCheck.Glob
