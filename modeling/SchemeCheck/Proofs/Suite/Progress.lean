import SchemeCheck.Proofs.Text.Cut
import SchemeCheck.Suite.Progress
set_option autoImplicit false

namespace SchemeCheck

def Status.mark : Status → Char
  | .passed => '.'
  | .failed => 'F'
  | .error => 'E'
  | .skipped => 'S'

theorem Text.isDigit_of_mem_ofNat {n : Nat} {c : Char} (h : c ∈ Text.ofNat n) : c.isDigit = true :=
  Nat.isDigit_of_mem_toDigits (by decide) (by decide) h

theorem Fraction.mem_toFixed {places : Nat} {a : Fraction} {c : Char} (h : c ∈ a.toFixed places) :
    c.isDigit = true ∨ c = '.' := by
  have filled : ∀ {n m : Nat}, c ∈ List.replicate n '0' ++ Text.ofNat m → c.isDigit = true := by
    intro n m hc
    rcases List.mem_append.1 hc with zero | digit
    · rw [List.eq_of_mem_replicate zero]
      rfl
    · exact Text.isDigit_of_mem_ofNat digit
  simp only [toFixed, List.mem_append, List.mem_cons] at h
  rcases h with h | rfl | h
  · exact .inl (filled (List.mem_of_mem_take h))
  · exact .inr rfl
  · exact .inl (filled (List.mem_of_mem_drop h))

namespace Progress

def counterBody (total n : Nat) : Text :=
  Text.ofNat n ++ " / ".toList ++ Text.ofNat total ++ " (".toList ++ percent n total ++ "%)".toList

def counterAfter (total n : Nat) : Text :=
  if n % 80 = 0 then ' ' :: counterBody total n ++ ['\n'] else []

def wrappedFrom (total first : Nat) (marks : Text) : Text :=
  (marks.zipIdx first).flatMap fun (c, n) => c :: counterAfter total n

def wrapped (total : Nat) (marks : Text) : Text := wrappedFrom total 1 marks

/-- The text without counters, each of which lasts from a blank to the end of its line. -/
def withoutCountersFrom : (inCounter : Bool) → Text → Text
  | _, [] => []
  | true, c :: t => withoutCountersFrom (c != '\n') t
  | false, c :: t =>
    if c = ' ' then withoutCountersFrom true t else c :: withoutCountersFrom false t

def withoutCounters (t : Text) : Text := withoutCountersFrom false t

def counterChars : Text := " /(.%)".toList

theorem mem_percent {marks total : Nat} {c : Char} (h : c ∈ percent marks total) :
    c.isDigit = true ∨ c = '.' := by
  rw [percent] at h
  split at h
  · exact Text.forall_mem_of_all (p := fun c => c.isDigit = true ∨ c = '.') (by decide) c h
  · exact Fraction.mem_toFixed h

theorem mem_counterBody {total n : Nat} {c : Char} (h : c ∈ counterBody total n) :
    c.isDigit = true ∨ c ∈ counterChars := by
  simp only [counterBody, List.mem_append] at h
  rcases h with ((((h | h) | h) | h) | h) | h
  · exact .inl (Text.isDigit_of_mem_ofNat h)
  · exact .inr (Text.forall_mem_of_all (by decide) c h)
  · exact .inl (Text.isDigit_of_mem_ofNat h)
  · exact .inr (Text.forall_mem_of_all (by decide) c h)
  · rcases mem_percent h with digit | rfl
    · exact .inl digit
    · exact .inr (by decide)
  · exact .inr (Text.forall_mem_of_all (by decide) c h)

theorem mem_counterAfter {total n : Nat} {c : Char} (h : c ∈ counterAfter total n) :
    c.isDigit = true ∨ c ∈ '\n' :: counterChars := by
  rw [counterAfter] at h
  split at h
  · simp only [List.cons_append, List.mem_cons, List.mem_append, List.not_mem_nil, or_false] at h
    rcases h with rfl | h | rfl
    · exact .inr (by decide)
    · exact (mem_counterBody h).imp_right (List.mem_cons_of_mem _)
    · exact .inr List.mem_cons_self
  · simp at h

theorem mark_eq (p : Progress) (c : Char) :
    p.mark c = (c :: counterAfter p.total (p.marks + 1), { p with marks := p.marks + 1 }) := by
  simp only [mark, counterAfter, width, counter, counterBody, List.append_assoc, List.cons_append]
  rfl

theorem wrappedFrom_cons (total first : Nat) (c : Char) (marks : Text) :
    wrappedFrom total first (c :: marks) =
      c :: counterAfter total first ++ wrappedFrom total (first + 1) marks := by
  rw [wrappedFrom, List.zipIdx_cons, List.flatMap_cons]
  rfl

theorem wrapped_concat (total : Nat) (marks : Text) (c : Char) :
    wrapped total (marks ++ [c]) =
      wrapped total marks ++ c :: counterAfter total (marks.length + 1) := by
  rw [wrapped, wrapped, wrappedFrom, List.zipIdx_append, List.flatMap_append,
    Nat.add_comm marks.length]
  exact congrArg (_ ++ ·) (List.append_nil _)

theorem withoutCountersFrom_body {body : Text} (h : '\n' ∉ body) (t : Text) :
    withoutCountersFrom true (body ++ '\n' :: t) = withoutCountersFrom false t := by
  induction body with
  | nil => rfl
  | cons c body ih =>
    obtain ⟨ne, rest⟩ := not_or.1 (mt List.mem_cons.2 h)
    rw [List.cons_append, withoutCountersFrom, bne_iff_ne.2 (Ne.symm ne)]
    exact ih rest

theorem withoutCountersFrom_counterAfter (total n : Nat) (t : Text) :
    withoutCountersFrom false (counterAfter total n ++ t) = withoutCountersFrom false t := by
  rw [counterAfter]
  split
  · have inLine : '\n' ∉ counterBody total n := fun h => by
      rcases mem_counterBody h with digit | other
      · exact absurd digit (by decide)
      · exact absurd other (by decide)
    rw [List.append_assoc, List.cons_append, withoutCountersFrom, if_pos rfl]
    exact withoutCountersFrom_body inLine t
  · rfl

theorem withoutCounters_wrapped (total : Nat) {marks : Text} (h : ' ' ∉ marks) :
    withoutCounters (wrapped total marks) = marks := by
  -- From any number on, since the marks after the first do not begin with one.
  have fromAny : ∀ first, withoutCountersFrom false (wrappedFrom total first marks) = marks := by
    induction marks with
    | nil => exact fun _ => rfl
    | cons c marks ih =>
      obtain ⟨ne, rest⟩ := not_or.1 (mt List.mem_cons.2 h)
      intro first
      rw [wrappedFrom_cons, List.cons_append, withoutCountersFrom, if_neg (Ne.symm ne),
        withoutCountersFrom_counterAfter, ih rest]
  exact fromAny 1

/-- A character that no counter has stands in the text only as a mark. -/
theorem mem_wrapped {c : Char} (hdigit : c.isDigit = false) (hother : c ∉ '\n' :: counterChars)
    (total : Nat) (marks : Text) : c ∈ wrapped total marks ↔ c ∈ marks := by
  have fromAny : ∀ first, c ∈ wrappedFrom total first marks ↔ c ∈ marks := by
    induction marks with
    | nil => exact fun _ => Iff.rfl
    | cons a marks ih =>
      intro first
      have outside : c ∉ counterAfter total first := fun h => by
        rcases mem_counterAfter h with digit | other
        · rw [hdigit] at digit
          contradiction
        · exact hother other
      rw [wrappedFrom_cons, List.cons_append, List.mem_cons, List.mem_append, ih, List.mem_cons]
      simp only [outside, false_or]
  exact fromAny 1

/-- The text lists the items in order, each once, under the numbers from `first` on. -/
inductive Enumerates {α : Type} (render : Text → α → Text) : (first : Nat) → List α → Text → Prop where
  | nil {first : Nat} : Enumerates render first [] []
  | cons {first : Nat} {item : α} {items : List α} {text : Text} :
      Enumerates render (first + 1) items text →
      Enumerates render first (item :: items) (render (Text.ofNat first) item ++ text)

theorem enumerates_numbered {α : Type} (render : Text → α → Text) (items : List α) :
    Enumerates render 1 items (numbered render items) := by
  have fromAny : ∀ first, Enumerates render first items
      ((items.zipIdx first).flatMap fun e => render (Text.ofNat e.2) e.1) := by
    induction items with
    | nil => exact fun _ => .nil
    | cons item items ih =>
      intro first
      rw [List.zipIdx_cons, List.flatMap_cons]
      exact .cons (ih (first + 1))
  exact fromAny 1

end Progress
end SchemeCheck
