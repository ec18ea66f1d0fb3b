import Mathlib.Data.List.TakeWhile
import SchemeCheck.Text.Blank
set_option autoImplicit false

namespace SchemeCheck.Text

theorem forall_mem_of_all {p : Char → Prop} [DecidablePred p] {t : Text}
    (h : t.all fun c => p c) : ∀ c ∈ t, p c :=
  fun c hc => of_decide_eq_true (List.all_eq_true.1 h c hc)

theorem bne_of_not_mem {c : Char} {t : Text} (h : c ∉ t) : ∀ a ∈ t, (a != c) = true := by
  intro a ha
  have : a ≠ c := fun same => h (same ▸ ha)
  simpa using this

theorem span_append {α : Type} {p : α → Bool} {run rest : List α} (all : ∀ a ∈ run, p a)
    (stop : ∀ a ∈ rest.head?, p a = false) :
    (run ++ rest).takeWhile p = run ∧ (run ++ rest).dropWhile p = rest := by
  rw [List.takeWhile_append_of_pos all, List.dropWhile_append_of_pos all]
  cases rest with
  | nil => simp
  | cons a rest => simp [stop a rfl]

theorem after?_append_cons {c : Char} {start : Text} (h : c ∉ start) (t rest : Text) :
    after? start (t ++ c :: rest) = (after? start t).map (· ++ c :: rest) := by
  induction start generalizing t with
  | nil => rfl
  | cons a start ih =>
    have ha : a ≠ c := fun e => h (e ▸ List.mem_cons_self)
    have hs : c ∉ start := fun m => h (List.mem_cons_of_mem _ m)
    cases t with
    | nil => simp [after?, ha]
    | cons b t =>
      by_cases same : a = b
      · simp [after?, same, ih hs]
      · simp [after?, same]

theorem trimStart_append_cons {c : Char} (h : isBlank c = false) (t rest : Text) :
    trimStart (t ++ c :: rest) = trimStart t ++ c :: rest := by
  unfold trimStart
  rw [List.dropWhile_append]
  split
  · next all => simp [List.isEmpty_iff.1 all, h]
  · rfl

theorem split_append_of_sep {sep : Char → Bool} {c : Char} (h : sep c = true) (t u : Text) :
    split sep (t ++ c :: u) = split sep t ++ split sep u := by
  induction t with
  | nil => simp [split, h]
  | cons a t ih =>
    by_cases ha : sep a = true
    · simp [split, ha, ih]
    · cases ht : split sep t with
      | nil => exact absurd ht (split_ne_nil _ _)
      | cons piece pieces => simp [split, ha, ih, ht]

theorem split_of_free {sep : Char → Bool} {t : Text} (h : ∀ c ∈ t, sep c = false) : split sep t = [t] := by
  induction t with
  | nil => rfl
  | cons a t ih =>
    have ht : ∀ c ∈ t, sep c = false := fun c m => h c (List.mem_cons_of_mem _ m)
    simp [split, h a List.mem_cons_self, ih ht]

theorem split_append_cons (c : Char) (t u : Text) :
    split (· == c) (t ++ c :: u) = split (· == c) t ++ split (· == c) u :=
  split_append_of_sep (by simp) t u

theorem split_of_not_mem {c : Char} {t : Text} (h : c ∉ t) : split (· == c) t = [t] :=
  split_of_free fun a ha => by simpa [bne] using bne_of_not_mem h a ha

theorem split_append_sep {c : Char} {piece : Text} (h : c ∉ piece) (t : Text) :
    split (· == c) (piece ++ c :: t) = piece :: split (· == c) t := by
  rw [split_append_cons, split_of_not_mem h, List.singleton_append]

theorem fields_sep (c : Char) (t : Text) : fields (· == c) (c :: t) = fields (· == c) t := by
  simp [fields, split]

theorem not_mem_split (c : Char) (t : Text) : ∀ piece ∈ split (· == c) t, c ∉ piece := by
  induction t with
  | nil => simp [split]
  | cons a t ih =>
    rw [split]
    split
    · simpa using ih
    · next ha =>
      have ne : c ≠ a := fun e => ha (by simp [e])
      split
      · simpa using ne
      · next piece pieces hs =>
        rw [hs] at ih
        simpa [ne] using ih

theorem mem_split_iff {sep : Char → Bool} {t piece : Text} :
    piece ∈ split sep t ↔ ∃ before after, t = before ++ (piece ++ after) ∧
      (∀ c ∈ piece, sep c = false) ∧ (∀ c ∈ before.getLast?, sep c) ∧ ∀ c ∈ after.head?, sep c := by
  constructor
  · intro h
    induction hn : t.length using Nat.strongRecOn generalizing t with
    | ind n ih =>
      subst hn
      cases hc : t.find? sep with
      | none =>
        have free : ∀ c ∈ t, sep c = false := by simpa using hc
        rw [split_of_free free, List.mem_singleton] at h
        exact ⟨[], [], by simp [h], h ▸ free, by simp, by simp⟩
      | some c =>
        obtain ⟨isSep, first, rest, rfl, free⟩ := List.find?_eq_some_iff_append.1 hc
        replace free : ∀ a ∈ first, sep a = false := by simpa using free
        rw [split_append_of_sep isSep, split_of_free free, List.singleton_append, List.mem_cons] at h
        rcases h with rfl | h
        · exact ⟨[], c :: rest, rfl, free, by simp, by simpa using isSep⟩
        · obtain ⟨before, after, rfl, inner, start, stop⟩ := ih rest.length (by simp; omega) h rfl
          refine ⟨first ++ c :: before, after, by simp, inner, fun d hd => ?_, stop⟩
          cases before with
          | nil => simp_all
          | cons b before => exact start d (by simpa [List.getLast?_append, List.getLast?_cons] using hd)
  · rintro ⟨before, after, rfl, free, start, stop⟩
    have first : piece ∈ split sep (piece ++ after) := by
      cases after with
      | nil => simp [split_of_free free]
      | cons c after => simp [split_append_of_sep (stop c rfl), split_of_free free]
    rcases List.eq_nil_or_concat before with rfl | ⟨before, c, rfl⟩
    · exact first
    · have sepLast : sep c = true := start c (by simp)
      rw [List.concat_eq_append, List.append_assoc, List.singleton_append, split_append_of_sep sepLast]
      exact List.mem_append_right _ first

theorem split_intercalate {c : Char} {pieces : List Text} (ne : pieces ≠ [])
    (h : ∀ piece ∈ pieces, c ∉ piece) : split (· == c) ([c].intercalate pieces) = pieces := by
  induction pieces with
  | nil => exact absurd rfl ne
  | cons piece pieces ih =>
    have free := h piece List.mem_cons_self
    cases pieces with
    | nil => simpa using split_of_not_mem free
    | cons next pieces =>
      have rest := ih (List.cons_ne_nil _ _) fun p m => h p (List.mem_cons_of_mem _ m)
      rw [List.intercalate_cons_cons, List.append_assoc, List.singleton_append,
        split_append_sep free, rest]

theorem fields_eq_iff {c : Char} {t : Text} {words : List Text} :
    fields (· == c) t = words ↔
      ∃ pieces, t = [c].intercalate pieces ∧ (∀ piece ∈ pieces, c ∉ piece) ∧
        words = pieces.filter (· ≠ []) := by
  constructor
  · rintro rfl
    exact ⟨split (· == c) t, (intercalate_split c t).symm, not_mem_split c t, rfl⟩
  · rintro ⟨pieces, rfl, free, rfl⟩
    cases pieces with
    | nil => rfl
    | cons piece pieces => rw [fields, split_intercalate (List.cons_ne_nil _ _) free]

theorem fields_intercalate {c : Char} {pieces : List Text}
    (h : ∀ piece ∈ pieces, piece ≠ [] ∧ c ∉ piece) :
    fields (· == c) ([c].intercalate pieces) = pieces :=
  fields_eq_iff.2 ⟨pieces, rfl, fun piece hp => (h piece hp).2,
    (List.filter_eq_self.2 fun piece hp => by simpa using (h piece hp).1).symm⟩

theorem fields_run_append {sep : Char → Bool} {run : Text} (h : ∀ c ∈ run, sep c) (t : Text) :
    fields sep (run ++ t) = fields sep t := by
  induction run with
  | nil => rfl
  | cons c run ih =>
    have rest := ih fun c m => h c (List.mem_cons_of_mem _ m)
    simpa [fields, split, h c List.mem_cons_self] using rest

theorem fields_single {sep : Char → Bool} {before piece after : Text} (ne : piece ≠ [])
    (start : ∀ c ∈ before, sep c) (free : ∀ c ∈ piece, sep c = false) (stop : ∀ c ∈ after, sep c) :
    fields sep (before ++ (piece ++ after)) = [piece] := by
  rw [fields_run_append start]
  cases after with
  | nil => simp [fields, split_of_free free, ne]
  | cons c after =>
    have none := fields_run_append (fun c m => stop c (List.mem_cons_of_mem _ m)) []
    rw [List.append_nil] at none
    rw [fields, split_append_of_sep (stop c List.mem_cons_self), split_of_free free, List.filter_append,
      ← fields, none]
    simp [fields, split, ne]

theorem getLast?_intercalate {words : List Text} (h : ∀ word ∈ words, word ≠ []) :
    ([' '].intercalate words).getLast? = words.getLast?.bind List.getLast? := by
  induction words with
  | nil => rfl
  | cons word words ih =>
    have rest := ih fun w hw => h w (List.mem_cons_of_mem _ hw)
    cases words with
    | nil => simp
    | cons next words =>
      have last : ([' '].intercalate (next :: words)).getLast? ≠ none := by
        have ne := h _ (List.mem_cons_of_mem _ List.mem_cons_self)
        cases words <;> simp [List.intercalate_cons_cons, ne]
      obtain ⟨c, hc⟩ := Option.ne_none_iff_exists'.1 last
      rw [List.intercalate_cons_cons, List.getLast?_append, hc, Option.some_or, ← hc, rest,
        List.getLast?_cons_cons]

theorem not_mem_intercalate {c : Char} (ne : c ≠ ' ') {words : List Text}
    (h : ∀ word ∈ words, c ∉ word) : c ∉ [' '].intercalate words := by
  induction words with
  | nil => simp
  | cons word words ih =>
    have here := h word List.mem_cons_self
    have rest := ih fun w hw => h w (List.mem_cons_of_mem _ hw)
    cases words with
    | nil => simpa using here
    | cons next words => simp [List.intercalate_cons_cons, here, ne, rest]

theorem afterLast_append_sep {c : Char} {t : Text} (h : c ∉ t) (start : Text) :
    afterLast (· == c) (start ++ c :: t) = t := by
  have plain : ∀ a ∈ t.reverse, (!(a == c)) = true := bne_of_not_mem (mt List.mem_reverse.1 h)
  simp [afterLast, List.takeWhile_append_of_pos plain]

theorem afterLast_append_of_mem {p : Char → Bool} {t : Text} (h : ∃ c ∈ t, p c = true)
    (start : Text) : afterLast p (start ++ t) = afterLast p t := by
  obtain ⟨c, hc, hp⟩ := h
  have stops : (t.reverse.takeWhile fun c => !p c).length ≠ t.reverse.length := by
    intro all
    have whole := (List.takeWhile_prefix _).eq_of_length all
    have := List.takeWhile_eq_self_iff.1 whole c (List.mem_reverse.2 hc)
    simp [hp] at this
  rw [afterLast, List.reverse_append, List.takeWhile_append, if_neg stops, afterLast]

theorem afterLast_append_all {p : Char → Bool} {tail : Text} (h : ∀ c ∈ tail, p c = false) (t : Text) :
    afterLast p (t ++ tail) = afterLast p t ++ tail := by
  have plain : ∀ c ∈ tail.reverse, (!p c) = true := by
    intro c hc
    simp [h c (List.mem_reverse.1 hc)]
  simp [afterLast, List.takeWhile_append_of_pos plain]

/-- A separator more makes no difference where what follows the last one has none of it. -/
theorem afterLast_or {p q : Char → Bool} {t : Text} (h : ∀ c ∈ afterLast p t, q c = false) :
    afterLast (fun c => p c || q c) t = afterLast p t := by
  have cut := List.takeWhile_append_dropWhile (p := fun c => !p c) (l := t.reverse)
  have ends := List.head?_dropWhile_not (fun c => !p c) t.reverse
  have run : ∀ c ∈ t.reverse.takeWhile fun c => !p c, (!(p c || q c)) = true := by
    intro c hc
    have here := List.mem_takeWhile_imp hc
    have there := h c (List.mem_reverse.2 hc)
    simp_all
  have stop : ∀ c ∈ (t.reverse.dropWhile fun c => !p c).head?, (!(p c || q c)) = false := by
    intro c hc
    rw [hc] at ends
    simp_all
  rw [afterLast, ← cut, (span_append run stop).1, afterLast]

theorem dropEndWhile_append (p : Char → Bool) (t : Text) :
    ∃ tail, t = dropEndWhile p t ++ tail ∧ ∀ c ∈ tail, p c := by
  refine ⟨(t.reverse.takeWhile p).reverse, ?_, fun c hc => ?_⟩
  · rw [dropEndWhile, ← List.reverse_append, List.takeWhile_append_dropWhile, List.reverse_reverse]
  · exact List.mem_takeWhile_imp (List.mem_reverse.1 hc)

theorem dropEndWhile_append_all {p : Char → Bool} {tail : Text} (h : ∀ c ∈ tail, p c) (t : Text) :
    dropEndWhile p (t ++ tail) = dropEndWhile p t := by
  rw [dropEndWhile, List.reverse_append,
    List.dropWhile_append_of_pos fun c hc => h c (List.mem_reverse.1 hc), dropEndWhile]

theorem dropEndWhile_eq_self {p : Char → Bool} {t : Text}
    (h : ∀ c, t.getLast? = some c → p c = false) : dropEndWhile p t = t := by
  rcases List.eq_nil_or_concat t with rfl | ⟨s, c, rfl⟩
  · rfl
  · have stop := h c (by simp)
    simp [dropEndWhile, stop]

theorem getLast?_dropEndWhile (p : Char → Bool) (t : Text) :
    ∀ c ∈ (dropEndWhile p t).getLast?, p c = false := by
  intro c hc
  have stop := List.head?_dropWhile_not p t.reverse
  rw [dropEndWhile, List.getLast?_reverse] at hc
  rw [hc] at stop
  simpa using stop

theorem dropEndWhile_eq_iff {p : Char → Bool} {t rest : Text} :
    dropEndWhile p t = rest ↔
      ∃ tail, t = rest ++ tail ∧ (∀ c ∈ tail, p c) ∧ ∀ c ∈ rest.getLast?, p c = false := by
  constructor
  · rintro rfl
    obtain ⟨tail, split, dropped⟩ := dropEndWhile_append p t
    exact ⟨tail, split, dropped, getLast?_dropEndWhile p t⟩
  · rintro ⟨tail, rfl, dropped, stop⟩
    rw [dropEndWhile_append_all dropped, dropEndWhile_eq_self stop]

theorem trimStart_append (t : Text) :
    ∃ blanks, t = blanks ++ trimStart t ∧ ∀ c ∈ blanks, isBlank c :=
  ⟨t.takeWhile isBlank, List.takeWhile_append_dropWhile.symm, fun _ hc => List.mem_takeWhile_imp hc⟩

theorem trimStart_blanks {blanks : Text} (h : ∀ c ∈ blanks, isBlank c) (t : Text) :
    trimStart (blanks ++ t) = trimStart t := List.dropWhile_append_of_pos h

theorem trimStart_trim (t : Text) : trimStart (trim t) = trim t := by
  obtain ⟨tail, split, -⟩ := dropEndWhile_append isBlank (trimStart t)
  cases h : trim t with
  | nil => rfl
  | cons c u =>
    have head := List.head?_dropWhile_not isBlank t
    have here : t.dropWhile isBlank = c :: (u ++ tail) := by
      rw [← List.cons_append, ← h]
      exact split
    rw [here] at head
    exact List.dropWhile_cons_of_neg (by simpa using head)

theorem exists_trim_append (t : Text) :
    ∃ indent gap, t = indent ++ (trim t ++ gap) ∧ (∀ c ∈ indent, isBlank c) ∧ ∀ c ∈ gap, isBlank c := by
  obtain ⟨indent, start, blanks⟩ := trimStart_append t
  obtain ⟨gap, stop, blanks'⟩ := dropEndWhile_append isBlank (trimStart t)
  refine ⟨indent, gap, ?_, blanks, blanks'⟩
  conv => lhs; rw [start, stop]
  rfl

theorem trim_trim (t : Text) : trim (trim t) = trim t := by
  rw [trim, trimStart_trim]
  exact dropEndWhile_eq_self (getLast?_dropEndWhile isBlank (trimStart t))

end SchemeCheck.Text
