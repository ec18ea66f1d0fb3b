set_option autoImplicit false

namespace SchemeCheck

abbrev Text := List Char

namespace Text

def after? : Text → Text → Option Text
  | [], t => some t
  | _ :: _, [] => none
  | a :: s, b :: t => if a = b then after? s t else none

theorem after?_eq_some_iff {start t rest : Text} :
    after? start t = some rest ↔ t = start ++ rest := by
  induction start generalizing t with
  | nil => simp [after?]
  | cons a s ih =>
    cases t with
    | nil => simp [after?]
    | cons b t =>
      by_cases h : a = b
      · simp [after?, h, ih]
      · simp [after?, h, Ne.symm h]

@[simp] theorem after?_append (start rest : Text) : after? start (start ++ rest) = some rest :=
  after?_eq_some_iff.2 rfl

def startsWith (start t : Text) : Bool := (after? start t).isSome

@[simp] theorem startsWith_append (start rest : Text) : startsWith start (start ++ rest) = true := by
  rw [startsWith, after?_append, Option.isSome_some]

def before? (ending t : Text) : Option Text :=
  (after? ending.reverse t.reverse).map List.reverse

theorem before?_eq_some_iff {ending t rest : Text} :
    before? ending t = some rest ↔ t = rest ++ ending := by
  simp only [before?, Option.map_eq_some_iff, after?_eq_some_iff]
  constructor
  · rintro ⟨r, h, rfl⟩
    simpa using congrArg List.reverse h
  · rintro rfl
    exact ⟨rest.reverse, by simp, by simp⟩

def endsWith (ending t : Text) : Bool := (before? ending t).isSome

def dropEndWhile (p : Char → Bool) (t : Text) : Text := (t.reverse.dropWhile p).reverse

/-- Cuts at every character that satisfies `sep`; the pieces may be empty. -/
def split (sep : Char → Bool) : Text → List Text
  | [] => [[]]
  | c :: t =>
    if sep c then [] :: split sep t
    else
      match split sep t with
      | [] => [[c]]
      | piece :: pieces => (c :: piece) :: pieces

theorem split_ne_nil (sep : Char → Bool) (t : Text) : split sep t ≠ [] := by
  cases t with
  | nil => simp [split]
  | cons c t =>
    rw [split]
    split
    · simp
    · split <;> simp

theorem intercalate_split (c : Char) (t : Text) : [c].intercalate (split (· == c) t) = t := by
  induction t with
  | nil => simp [split]
  | cons a t ih =>
    rw [split]
    by_cases h : a = c
    · subst h
      cases hs : split (· == a) t with
      | nil => exact absurd hs (split_ne_nil _ _)
      | cons p ps =>
        rw [hs] at ih
        simp only [beq_self_eq_true, if_true, List.intercalate_cons_cons, List.nil_append, ih,
          List.singleton_append]
    · cases hs : split (· == c) t with
      | nil => exact absurd hs (split_ne_nil _ _)
      | cons p ps =>
        rw [hs] at ih
        cases ps with
        | nil => simp_all
        | cons q qs => simp_all [List.intercalate_cons_cons]

def fields (sep : Char → Bool) (t : Text) : List Text := (split sep t).filter (· ≠ [])

def afterLast (sep : Char → Bool) (t : Text) : Text :=
  (t.reverse.takeWhile (fun c => !sep c)).reverse

/-- Cuts at every occurrence of the separator `first :: more`, from the left. -/
def splitAround (first : Char) (more : Text) : Text → List Text
  | [] => [[]]
  | c :: t =>
    match _ : after? (first :: more) (c :: t) with
    | some rest => [] :: splitAround first more rest
    | none =>
      match splitAround first more t with
      | [] => [[c]]
      | piece :: pieces => (c :: piece) :: pieces
termination_by t => t.length
decreasing_by
  · have := congrArg List.length (after?_eq_some_iff.1 ‹_›)
    simp at this ⊢
    omega
  · simp

/-- The lines with their line feeds; only the last may lack one. -/
def linesWithEnds : Text → List Text
  | [] => []
  | c :: t =>
    if c = '\n' then [c] :: linesWithEnds t
    else
      match linesWithEnds t with
      | [] => [[c]]
      | line :: lines => (c :: line) :: lines

theorem flatten_linesWithEnds (t : Text) : (linesWithEnds t).flatten = t := by
  induction t with
  | nil => rfl
  | cons c t ih =>
    rw [linesWithEnds]
    split
    · simp [ih]
    · split
      · next h => rw [h] at ih; simp_all
      · next h => rw [h] at ih; simp_all

/-- A line without its end: a line feed, or a carriage return and a line feed. -/
def dropLineEnd (line : Text) : Text :=
  match before? ['\n'] line with
  | none => line
  | some body => (before? ['\r'] body).getD body

def lines (t : Text) : List Text := (linesWithEnds t).map dropLineEnd

def byteLength : Text → Nat
  | [] => 0
  | c :: t => c.utf8Size + byteLength t

@[simp] theorem byteLength_nil : byteLength [] = 0 := rfl

@[simp] theorem byteLength_cons (c : Char) (t : Text) :
    byteLength (c :: t) = c.utf8Size + byteLength t := rfl

@[simp] theorem byteLength_append (s t : Text) :
    byteLength (s ++ t) = byteLength s + byteLength t := by
  induction s with
  | nil => simp
  | cons c s ih => simp [ih, Nat.add_assoc]

def spaces (n : Nat) : Text := List.replicate n ' '

def padEnd (width : Nat) (t : Text) : Text := t ++ spaces (width - t.length)

def padStart (width : Nat) (t : Text) : Text := spaces (width - t.length) ++ t

def ofNat (n : Nat) : Text := Nat.toDigits 10 n

end Text

end SchemeCheck
