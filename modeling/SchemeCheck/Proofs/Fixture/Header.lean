import SchemeCheck.Fixture.Header
import SchemeCheck.Proofs.Fixture.AssertionLine
import SchemeCheck.Proofs.Text.Lines
set_option autoImplicit false

namespace SchemeCheck.Header
open AssertionLine (not_opensComment_caret)

def IsName (name : Text) : Prop := name ≠ [] ∧ '"' ∉ name

/-- What stands before the title: nothing, or a comment opener, maybe with a script tag before it, and
any blanks. -/
inductive Opening : Option CommentOpener → Text → Prop where
  | nothing : Opening none []
  | comment {tag gap : Text} (o : CommentOpener) (htag : tag = [] ∨ tag = scriptTag)
      (blank : ∀ c ∈ gap, isBlank c) : Opening (some o) (tag ++ (o.text ++ gap))

theorem readQuoted?_eq_some_iff {t name rest : Text} :
    readQuoted? t = some (name, rest) ↔ IsName name ∧ t = name ++ '"' :: rest := by
  constructor
  · intro h
    have parts := List.takeWhile_append_dropWhile (p := (· != '"')) (l := t)
    have head := List.head?_dropWhile_not (· != '"') t
    unfold readQuoted? at h
    split at h
    · next c quotedName d after taken left =>
      obtain ⟨rfl, rfl⟩ : c :: quotedName = name ∧ after = rest := by simpa using h
      rw [taken, left] at parts
      rw [left] at head
      obtain rfl : d = '"' := by simpa using head
      refine ⟨⟨List.cons_ne_nil _ _, fun inside => ?_⟩, parts.symm⟩
      rw [← taken] at inside
      have := List.mem_takeWhile_imp inside
      simp at this
    · contradiction
  · rintro ⟨⟨ne, free⟩, rfl⟩
    obtain ⟨c, name, rfl⟩ := List.exists_cons_of_ne_nil ne
    have stop : ∀ a ∈ ('"' :: rest).head?, (a != '"') = false := by simp
    obtain ⟨taken, left⟩ := Text.span_append (Text.bne_of_not_mem free) stop
    rw [readQuoted?, taken, left]

theorem exists_opening (t : Text) : ∃ opening, Opening (readOpener t).1 opening ∧
    t = opening ++ (readOpener t).2 := by
  unfold readOpener
  split
  · next o rest ho =>
    obtain ⟨gap, hrest, hgap⟩ := Text.trimStart_append rest
    have body := CommentOpener.text_append_of_read? ho
    have tagged : ∃ tag, (tag = [] ∨ tag = scriptTag) ∧
        t = tag ++ (Text.after? scriptTag t).getD t := by
      cases ha : Text.after? scriptTag t with
      | none => exact ⟨[], .inl rfl, rfl⟩
      | some after => exact ⟨scriptTag, .inr rfl, Text.after?_eq_some_iff.1 ha⟩
    obtain ⟨tag, htag, ht⟩ := tagged
    refine ⟨tag ++ (o.text ++ gap), .comment o htag hgap, ?_⟩
    conv => lhs; rw [ht, body, hrest]
    simp only [List.append_assoc]
  · exact ⟨[], .nothing, rfl⟩

theorem Opening.not_mem_caret {o : Option CommentOpener} {opening : Text} (h : Opening o opening) :
    '^' ∉ opening := by
  cases h with
  | nothing => exact List.not_mem_nil
  | @comment tag gap o htag blank =>
    intro inside
    rcases List.mem_append.1 inside with inside | inside
    · rcases htag with rfl | rfl
      · exact absurd inside List.not_mem_nil
      · exact absurd inside (by decide)
    · rcases List.mem_append.1 inside with inside | inside
      · exact not_opensComment_caret (.inr ⟨o, inside⟩)
      · exact not_opensComment_caret (.inl (blank _ inside))

/-- A document with a header has a capital C before its first caret: that of the title. -/
theorem exists_capital_of_read? {content : Text} {header : Header} (h : read? content = some header) :
    ∃ opening rest, content = opening ++ 'C' :: rest ∧ '^' ∉ opening := by
  obtain ⟨opening, begins, hopening⟩ := exists_opening content
  have free := begins.not_mem_caret
  unfold read? at h
  cases hr : readOpener content with
  | mk opener rest =>
    rw [hr] at h hopening
    cases ht : Text.after? title rest with
    | none => simp [ht] at h
    | some after =>
      have body := Text.after?_eq_some_iff.1 ht
      exact ⟨opening, title.tail ++ after, by rw [hopening, body]; rfl, free⟩

theorem append_cons_ne {a b : Char} (ne : a ≠ b) {x y s t : Text} (ha : a ∉ y) (hb : b ∉ x) :
    x ++ a :: s ≠ y ++ b :: t := by
  induction x generalizing y with
  | nil =>
    cases y with
    | nil => simpa using fun e : a = b => absurd e ne
    | cons c y => simpa using fun e : a = c => absurd (by simp [e]) ha
  | cons c x ih =>
    simp only [List.mem_cons, not_or] at hb
    cases y with
    | nil => simpa using fun e : c = b => absurd e.symm hb.1
    | cons d y =>
      simp only [List.mem_cons, not_or] at ha
      simpa using fun _ : c = d => ih ha.2 hb.2

theorem read?_first_eq_none {content first : Text} {others : List Text} {header : Header}
    (h : read? content = some header) (hl : Text.lines content = first :: others) :
    AssertionLine.read? first = none := by
  cases hp : AssertionLine.read? first with
  | none => rfl
  | some parsed =>
    obtain ⟨before, after, run, noCapital⟩ := AssertionLine.run_of_read? hp
    obtain ⟨opening, rest, hopening, noCaret⟩ := exists_capital_of_read? h
    obtain ⟨tail, htail, -⟩ := Text.exists_atLineEnd_of_lines_eq_cons hl
    obtain ⟨k, hk⟩ := Nat.exists_eq_succ_of_ne_zero (Nat.pos_iff_ne_zero.1 run.count_pos)
    rw [htail, run.text_eq, hk, List.replicate_succ, List.append_assoc] at hopening
    -- One of the first capital C and the first caret comes first.
    exact absurd hopening (append_cons_ne (by decide) noCaret noCapital)

end SchemeCheck.Header
