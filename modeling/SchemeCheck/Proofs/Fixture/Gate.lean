import SchemeCheck.Proofs.Fixture.Assertion
import SchemeCheck.Proofs.Fixture.Grammar
import SchemeCheck.Proofs.Text.Letters
set_option autoImplicit false

namespace SchemeCheck

def afterCarets (inserted line : Text) : Text :=
  let rest := line.dropWhile (· != '^')
  line.takeWhile (· != '^') ++
    (rest.takeWhile (· == '^') ++ (inserted ++ rest.dropWhile (· == '^')))

def gateText (digits : Text) : Text := ' ' :: ("build>=".toList ++ digits)

theorem Case.isPlain_of_isDigit {c : Char} (h : c.isDigit = true) : IsPlain c := by
  have bounds := Decimal.toNat_of_isDigit h
  refine ⟨by omega, by omega, fun letter => ?_⟩
  have apart := (isAlpha_iff _).1 letter
  omega

theorem isLower_gateText {digits : Text} (h : ∀ c ∈ digits, c.isDigit = true) :
    ∀ c ∈ gateText digits, Case.IsLower c := by
  intro c hc
  rcases List.mem_append.1 (show c ∈ " build>=".toList ++ digits from hc) with key | digit
  · exact Text.forall_mem_of_all (by decide) c key
  · exact (Case.isPlain_of_isDigit (h c digit)).isLower

theorem not_mem_gateWord {c : Char} {digits : Text} (h : ∀ d ∈ digits, d.isDigit = true)
    (key : c ∉ "build>=".toList) (sign : ¬ c.isDigit = true) : c ∉ "build>=".toList ++ digits := fun hc =>
  (List.mem_append.1 hc).elim key fun digit => sign (h c digit)

theorem getLast?_gateText {digits : Text} (h : ∀ c ∈ digits, c.isDigit = true) :
    ∀ c ∈ (gateText digits).getLast?, c.isDigit = true ∨ c = '=' := by
  intro c hc
  cases digits with
  | nil => exact .inr (by simpa [gateText] using hc.symm)
  | cons d digits =>
    have last : (d :: digits).getLast? = some c := by
      simpa [gateText, List.getLast?_append, List.getLast?_cons] using hc
    exact .inl (h c (List.mem_of_getLast? last))

theorem Clause.readAll?_gate {digits : Text} {n : Nat} (number : Decimal.Denotes digits n)
    (words : List Text) :
    readAll? (("build>=".toList ++ digits) :: words) =
      if n ≤ Decimal.maxUnsigned32 then (readAll? words).map (minBuild n :: ·) else none := by
  have read : Decimal.readUpTo? Decimal.maxUnsigned32 digits =
      if n ≤ Decimal.maxUnsigned32 then some n else none := by
    rw [Decimal.readUpTo?, number.dropPlus_eq, Decimal.read?_eq_some_iff.2 number, Option.filter_some]
    simp only [decide_eq_true_eq]
  simp only [readAll?, Text.after?_append, after?_key, Option.bind_some, read]
  by_cases small : n ≤ Decimal.maxUnsigned32 <;> simp only [small, if_true, if_false]

namespace CaretRun

theorem afterCarets_eq {t before after : Text} {count : Nat} (h : CaretRun t before count after)
    (inserted : Text) :
    afterCarets inserted t = (before ++ List.replicate count '^') ++ (inserted ++ after) := by
  obtain ⟨start, rest⟩ := h.span_before
  obtain ⟨carets, beyond⟩ := span_caret h.head?_after count
  rw [afterCarets, start, rest, carets, beyond, List.append_assoc]

/-- Lower case is taken apart after the carets, if what follows them is no part of a word. -/
theorem exists_lower {t before after : Text} {count : Nat} (h : CaretRun t before count after)
    (border : ∀ c ∈ after.head?, Case.IsBorder c ∧ Case.IsLower c) :
    ∃ before', Text.lower (before ++ List.replicate count '^') = before' ++ List.replicate count '^' ∧
      CaretRun (Text.lower t) before' count (Text.lower after) := by
  have whole : t = (before ++ List.replicate count '^') ++ after := by
    rw [h.text_eq, List.append_assoc]
  have alone : CaretRun (before ++ List.replicate count '^') before count [] :=
    ⟨by simp, h.count_pos, h.not_mem_before, by simp⟩
  obtain ⟨seen, beyond, lowered⟩ := alone.lower
  have start : Text.lower (before ++ List.replicate count '^') =
      Case.lowerBetween [] beyond before ++ List.replicate count '^' := by
    simpa [Case.lowerBetween] using lowered.text_eq
  refine ⟨_, start, ?_, h.count_pos, lowered.not_mem_before, ?_⟩
  · rw [whole, Text.lower_append border, start, List.append_assoc]
  · rw [Text.lower_eq_lowerBetween, Ne, Case.head?_lowerBetween plain_caret]
    exact h.head?_after

end CaretRun

namespace AssertionLine

theorem WithoutEnd.restart {ending : List Char} {start start' t rest : Text}
    (h : WithoutEnd ending (start ++ t) (start ++ rest))
    (stop : ∀ c ∈ start'.getLast?, c ∉ ending) :
    WithoutEnd ending (start' ++ t) (start' ++ rest) := by
  obtain ⟨tail, split, dropped, last⟩ := h
  rw [List.append_assoc] at split
  refine ⟨tail, by rw [List.append_cancel_left split, List.append_assoc], dropped, ?_⟩
  cases rest with
  | nil => simpa using stop
  | cons c rest => simpa [List.getLast?_append, List.getLast?_cons] using last

def closingChars : List Char := [' ', '-', '>', '*', '/']

theorem closingChars_subset : [' ', '-', '>'] ⊆ closingChars ∧ [' ', '*', '/'] ⊆ closingChars := by decide

theorem exists_closing_of_normalForm {line t : Text} (h : NormalForm line t) :
    ∃ closing, Text.lower line = t ++ closing ∧ ∀ c ∈ closing, c ∈ closingChars := by
  obtain ⟨inner, ⟨tail, hline, markup, -⟩, ⟨tail', hinner, block, -⟩⟩ := h
  refine ⟨tail' ++ tail, by rw [hline, hinner, List.append_assoc], fun c hc => ?_⟩
  obtain ⟨inMarkup, inBlock⟩ := closingChars_subset
  exact (List.mem_append.1 hc).elim (fun hc => inBlock (block c hc)) fun hc => inMarkup (markup c hc)

theorem head?_after_carets {line before after t rest : Text} {count : Nat}
    (run : CaretRun line before count after) (normal : NormalForm line t)
    (carets : readCarets? t = some (count, rest)) (start : rest = [] ∨ rest.head? = some ' ') :
    ∀ c ∈ after.head?, c ∈ closingChars := by
  obtain ⟨before', -, normalRun⟩ := readCarets?_eq_some_iff.1 carets
  obtain ⟨closing, hline, signs⟩ := exists_closing_of_normalForm normal
  have lowered : CaretRun (Text.lower line) before' count (rest ++ closing) :=
    hline ▸ normalRun.append fun caret => absurd (signs _ caret) (by decide)
  obtain ⟨seen, beyond, lowered'⟩ := run.lower
  have follows : Case.lowerBetween seen [] after = rest ++ closing := by
    have text := lowered'.text_eq.symm.trans lowered.text_eq
    rw [(lowered'.unique lowered).1] at text
    exact List.append_cancel_left (List.append_cancel_left text)
  intro c hc
  cases hd : (rest ++ closing).head? with
  | none =>
    rw [List.head?_eq_none_iff.1 hd] at follows
    have ne : after ≠ [] := fun none => by simp [none] at hc
    exact absurd follows (Case.lowerBetween_ne_nil ne)
  | some d =>
    have sign : d ∈ closingChars := by
      rcases start with rfl | space
      · exact signs d (List.mem_of_mem_head? hd)
      · obtain rfl : ' ' = d := by simpa [List.head?_append, space] using hd
        decide
    have plain : Case.IsPlain d := Text.forall_mem_of_all (t := closingChars) (by decide) d sign
    rw [← follows, Case.head?_lowerBetween plain, hc] at hd
    exact Option.some.inj hd ▸ sign

theorem fields_gate {digits rest : Text} (hdigits : ∀ c ∈ digits, c.isDigit = true)
    (start : rest = [] ∨ rest.head? = some ' ') :
    Text.fields (· == ' ') (gateText digits ++ rest) =
      ("build>=".toList ++ digits) :: Text.fields (· == ' ') rest := by
  have free : ' ' ∉ "build>=".toList ++ digits := not_mem_gateWord hdigits (by decide) (by decide)
  rw [gateText, List.cons_append, Text.fields_sep]
  rcases rest with _ | ⟨c, rest⟩
  · rw [List.append_nil, Text.fields, Text.split_of_not_mem free]
    simp [Text.fields, Text.split]
  · obtain rfl : c = ' ' := by simpa using start
    rw [Text.fields, Text.split_append_sep free, Text.fields_sep, Text.fields]
    simp

/-- The normal form behind a shared start is the same behind another, if no end reaches into that. -/
theorem NormalForm.restart {line line' front front' low rest : Text}
    (h : NormalForm line (front ++ rest)) (hline : Text.lower line = front ++ low)
    (hline' : Text.lower line' = front' ++ low) (stop : ∀ c ∈ front'.getLast?, c ∉ closingChars) :
    NormalForm line' (front' ++ rest) := by
  obtain ⟨inMarkup, inBlock⟩ := closingChars_subset
  obtain ⟨inner, outer, ⟨tail, hinner, dropped⟩⟩ := h
  rw [hline, hinner, List.append_assoc] at outer
  have inside : WithoutEnd [' ', '*', '/'] (front ++ (rest ++ tail)) (front ++ rest) :=
    ⟨tail, by rw [List.append_assoc], dropped⟩
  refine ⟨front' ++ (rest ++ tail), ?_, inside.restart fun c hc sign => stop c hc (inBlock sign)⟩
  rw [hline']
  exact outer.restart fun c hc sign => stop c hc (inMarkup sign)

theorem getLast?_append_gateText {digits : Text} (h : ∀ c ∈ digits, c.isDigit = true) (front : Text) :
    ∀ c ∈ (front ++ gateText digits).getLast?, c ∉ closingChars := by
  intro c hc
  have last : (gateText digits).getLast? = some c := by
    simpa [gateText, List.getLast?_append, List.getLast?_cons] using hc
  rcases getLast?_gateText h c last with digit | rfl
  · exact fun sign => absurd digit (Text.forall_mem_of_all (p := fun c => ¬ c.isDigit = true)
      (t := closingChars) (by decide) c sign)
  · decide

theorem lower_afterCarets {line before after front digits : Text} {count : Nat}
    (run : CaretRun line before count after)
    (lowered : Text.lower (before ++ List.replicate count '^') = front)
    (border : ∀ c ∈ after.head?, Case.IsBorder c ∧ Case.IsLower c)
    (hdigits : ∀ c ∈ digits, c.isDigit = true) :
    Text.lower (afterCarets (gateText digits) line) = (front ++ gateText digits) ++ Text.lower after := by
  have space : ∀ c ∈ (gateText digits ++ after).head?, Case.IsBorder c ∧ Case.IsLower c := by
    intro c hc
    obtain rfl : ' ' = c := by simpa [gateText] using hc
    decide
  rw [run.afterCarets_eq, Text.lower_append space, lowered, Text.lower_append border,
    Text.lower_isLower (isLower_gateText hdigits), List.append_assoc]

theorem normalForm_gate {line before after t rest digits : Text} {count : Nat}
    (run : CaretRun line before count after) (normal : NormalForm line t)
    (carets : readCarets? t = some (count, rest)) (start : rest = [] ∨ rest.head? = some ' ')
    (hdigits : ∀ c ∈ digits, c.isDigit = true) :
    NormalForm (afterCarets (gateText digits) line) (afterCarets (gateText digits) t) ∧
      readCarets? (afterCarets (gateText digits) t) = some (count, gateText digits ++ rest) := by
  have border : ∀ c ∈ after.head?, Case.IsBorder c ∧ Case.IsLower c := fun c hc =>
    Text.forall_mem_of_all (p := fun c => Case.IsBorder c ∧ Case.IsLower c) (t := closingChars)
      (by decide) c (head?_after_carets run normal carets start c hc)
  obtain ⟨before', lowerStart, lowerRun⟩ := run.exists_lower border
  obtain ⟨opening, hopening, normalRun⟩ := readCarets?_eq_some_iff.1 carets
  obtain ⟨closing, hline, signs⟩ := exists_closing_of_normalForm normal
  have lowered : CaretRun (Text.lower line) opening count (rest ++ closing) :=
    hline ▸ normalRun.append fun caret => absurd (signs _ caret) (by decide)
  obtain ⟨rfl, -⟩ := lowerRun.unique lowered
  rw [normalRun.afterCarets_eq]
  have same : CaretRun ((before' ++ List.replicate count '^') ++ (gateText digits ++ rest)) before' count
      (gateText digits ++ rest) :=
    ⟨List.append_assoc .., run.count_pos, normalRun.not_mem_before, by simp [gateText]⟩
  refine ⟨?_, readCarets?_eq_some_iff.2 ⟨before', hopening, same⟩⟩
  rw [normalRun.text_eq, ← List.append_assoc] at normal
  rw [← List.append_assoc]
  exact normal.restart (by rw [lowerRun.text_eq, List.append_assoc])
    (lower_afterCarets run lowerStart border hdigits) (getLast?_append_gateText hdigits _)

/-- A gate is a clause more, and the first; a number that no build can have is none. -/
theorem read?_gate {line digits : Text} {parsed : AssertionLine} {n : Nat}
    (h : read? line = some parsed) (number : Decimal.Denotes digits n) :
    read? (afterCarets (gateText digits) line) =
      if n ≤ Decimal.maxUnsigned32 then
        some { parsed with minBuild := some n, text := afterCarets (gateText digits) parsed.text }
      else none := by
  obtain ⟨before, after, run, -⟩ := run_of_read? h
  obtain ⟨carets, rest, clauses, hcarets, start, hclauses, rfl⟩ := read?_eq_some_ofClauses.1 h
  obtain ⟨normal, gated⟩ :=
    normalForm_gate run (normalForm_iff.2 rfl) hcarets start number.isDigit
  rw [read?, normalForm_iff.1 normal, gated]
  dsimp only
  rw [if_pos (.inr rfl), fields_gate number.isDigit start, Clause.readAll?_gate number, hclauses]
  split <;> rfl

theorem editsInside_gate {line digits : Text} {parsed : AssertionLine} (h : read? line = some parsed)
    (hdigits : ∀ c ∈ digits, c.isDigit = true) :
    Text.EditsInside (afterCarets (gateText digits)) line := by
  obtain ⟨before, after, run, -⟩ := run_of_read? h
  have edited := run.afterCarets_eq (gateText digits)
  have whole := run.text_eq
  rw [← List.append_assoc] at whole
  refine ⟨fun ending hending => ?_, ?_, fun free feed => ?_, fun last => ?_⟩
  · have free : '^' ∉ ending := by
      simp only [Text.lineEnds, List.mem_cons, List.not_mem_nil, or_false] at hending
      rcases hending with rfl | rfl | rfl <;> decide
    rw [(run.append free).afterCarets_eq, edited]
    simp only [List.append_assoc]
  · rw [edited]
    simp [gateText]
  · rw [whole, List.mem_append] at free
    rcases List.mem_append.1 (edited ▸ feed) with start | inserted
    · exact free (.inl start)
    · rcases List.mem_append.1 inserted with gate | rest
      · rcases List.mem_cons.1 gate with space | word
        · exact absurd space (by decide)
        · exact not_mem_gateWord hdigits (by decide) (by decide) word
      · exact free (.inr rest)
  · rw [edited] at last
    rw [whole]
    cases after with
    | nil =>
      have gate : (gateText digits).getLast? = some '\r' := by
        simpa [gateText, List.getLast?_append, List.getLast?_cons] using last
      rcases getLast?_gateText hdigits _ gate with digit | sign
      · exact absurd digit (by decide)
      · exact absurd sign (by decide)
    | cons c after => simpa [List.getLast?_append, List.getLast?_cons] using last

end AssertionLine

namespace Assertion
open AssertionLine

def subjectBelow (index : Nat) (subject : Option Nat) : List Text → Option Nat
  | [] => subject
  | line :: lines => subjectBelow (index + 1) (if isAccepted line then subject else some index) lines

theorem ofLinesFrom_append (index : Nat) (subject : Option Nat) (above below : List Text) :
    ofLinesFrom index subject (above ++ below) = ofLinesFrom index subject above ++
      ofLinesFrom (index + above.length) (subjectBelow index subject above) below := by
  induction above generalizing index subject with
  | nil => rfl
  | cons line above ih =>
    rw [List.cons_append, ofLinesFrom, ofLinesFrom, subjectBelow, List.length_cons, Nat.add_comm above.length,
      ← Nat.add_assoc]
    cases hp : read? line with
    | none => simp [isAccepted, hp, ih]
    | some parsed => simp [isAccepted, hp, ih]

theorem subjectAt_subjectBelow {ls above below : List Text} {index : Nat} {subject : Option Nat}
    (hs : SubjectAt ls index subject) (h : ls.drop index = above ++ below) :
    SubjectAt ls (index + above.length) (subjectBelow index subject above) := by
  induction above generalizing index subject with
  | nil => exact hs
  | cons line above ih =>
    have here : ls[index]? = some line := by
      have := congrArg (·[0]?) h
      simpa using this
    have next : ls.drop (index + 1) = above ++ below := by
      rw [← List.drop_drop, h]
      rfl
    rw [subjectBelow, List.length_cons, Nat.add_comm above.length, ← Nat.add_assoc]
    refine ih ?_ next
    split
    · next accepted => exact hs.accepted here accepted
    · next plain => exact .plain here (by simpa using plain)

def withGate (digits : Text) (n : Nat) (a : Assertion) : Assertion :=
  { a with rawText := afterCarets (gateText digits) a.rawText, minBuild := some n }

theorem ofLine?_gate {line digits : Text} {parsed : AssertionLine} (h : read? line = some parsed)
    (row n : Nat) :
    ofLine? row (afterCarets (gateText digits) line)
        { parsed with minBuild := some n, text := afterCarets (gateText digits) parsed.text } =
      (ofLine? row line parsed).map (withGate digits n) := by
  obtain ⟨before, after, run, -⟩ := run_of_read? h
  have gated : CaretRun (afterCarets (gateText digits) line) before parsed.carets (gateText digits ++ after) :=
    ⟨by rw [run.afterCarets_eq, List.append_assoc], run.count_pos, run.not_mem_before, by simp [gateText]⟩
  rw [ofLine?, ofLine?, findIdx?_caret gated, findIdx?_caret run]
  rfl

theorem ofLinesFrom_gate {line digits : Text} {parsed : AssertionLine} {n : Nat}
    (h : read? line = some parsed) (number : Decimal.Denotes digits n) (small : n ≤ Decimal.maxUnsigned32)
    (index : Nat) (subject : Option Nat) (below : List Text) :
    ofLinesFrom index subject (afterCarets (gateText digits) line :: below) =
      ((subject.bind fun row => ofLine? row line parsed).map (withGate digits n)).toList ++
        ofLinesFrom (index + 1) subject below := by
  rw [ofLinesFrom, read?_gate h number, if_pos small]
  dsimp only
  cases subject with
  | none => rfl
  | some row => rw [Option.bind_some, Option.bind_some, ofLine?_gate h]

theorem appliesTo_withGate {digits : Text} {n build : Nat} (h : build < n) (a : Assertion) :
    (a.withGate digits n).appliesTo build = false := by
  simpa [withGate, appliesTo] using h

/-- A gate with a number that a build can have changes the assertion of its line and no other; a
greater number makes the line none of the assertion lines. -/
theorem ofDocument_gate {content line digits : Text} {i n : Nat}
    (hline : (Text.lines content)[i]? = some line) (accepted : isAccepted line = true)
    (number : Decimal.Denotes digits n) :
    let gated := Text.editLine i (afterCarets (gateText digits)) content
    (n ≤ Decimal.maxUnsigned32 →
      (isStated (Text.lines content) i = false → ofDocument gated = ofDocument content) ∧
      (isStated (Text.lines content) i = true → ∃ above a below, StatedBy (Text.lines content) i a ∧
        above = ofLinesFrom 0 none ((Text.lines content).take i) ∧
        ofDocument content = above ++ a :: below ∧
        ofDocument gated = above ++ a.withGate digits n :: below ∧
        ∀ build < n, (ofDocument gated).filter (·.appliesTo build) =
          (above ++ below).filter (·.appliesTo build))) ∧
    (Decimal.maxUnsigned32 < n →
      ∃ edited, (Text.lines gated)[i]? = some edited ∧ isAccepted edited = false) := by
  dsimp only
  obtain ⟨parsed, hp⟩ := Option.isSome_iff_exists.1 accepted
  obtain ⟨above, below, rfl, hlines, hgated⟩ :=
    Text.lines_editLine hline (editsInside_gate hp number.isDigit)
  have subject : SubjectAt (Text.lines content) (0 + above.length) (subjectBelow 0 none above) :=
    subjectAt_subjectBelow (fun j hj => absurd hj (Nat.not_lt_zero j)) hlines
  have stated := isStated_iff (Nat.zero_add _ ▸ subject) hline
  rw [accepted, Bool.true_and] at stated
  refine ⟨fun small => ?_, fun large => ?_⟩
  · have before : ofDocument content = ofLinesFrom 0 none above ++
        (((subjectBelow 0 none above).bind fun row => ofLine? row line parsed).toList ++
          ofLinesFrom (0 + above.length + 1) (subjectBelow 0 none above) below) := by
      rw [ofDocument, hlines, ofLinesFrom_append, ofLinesFrom, hp]
    have after := congrArg (ofLinesFrom 0 none) hgated
    rw [ofLinesFrom_append, ofLinesFrom_gate hp number small, ← ofDocument] at after
    cases hs : subjectBelow 0 none above with
    | none =>
      rw [hs] at before after stated
      exact ⟨fun _ => after.trans before.symm, fun here => absurd (stated.symm.trans here) (by decide)⟩
    | some row =>
      rw [hs] at before after stated subject
      rw [Nat.zero_add] at subject
      obtain ⟨a, ha, statedBy⟩ := statedBy_ofLine? subject hline hp
      rw [Option.bind_some, ha] at before after
      rw [Option.map_some, Option.toList_some, List.singleton_append] at after
      refine ⟨fun plain => by simp [stated] at plain, fun _ => ⟨_, a,
        ofLinesFrom (0 + above.length + 1) (some row) below, statedBy, ?_, before, after, fun build low => ?_⟩⟩
      · rw [hlines, List.take_left]
      · rw [after, List.filter_append, List.filter_append,
          List.filter_cons_of_neg (by simp [appliesTo_withGate low])]
  · refine ⟨afterCarets (gateText digits) line, by simp [hgated], ?_⟩
    rw [isAccepted, read?_gate hp number, if_neg (Nat.not_le.2 large)]
    rfl

end Assertion

namespace Sample

def stackedDocument : Text :=
  "x\nfoo\n# ^ fg=#000001\r\n# ^ fg=#000002 -->\nbar\n# ^ fg=#000003\n".toList

end Sample

theorem Assertion.ofDocument_gate_sample :
    let gated := Text.editLine 2 (afterCarets (gateText (Text.ofNat 9999))) Sample.stackedDocument
    isStated (Text.lines Sample.stackedDocument) 2 = true ∧
      ∃ above a below, StatedBy (Text.lines Sample.stackedDocument) 2 a ∧
        above = ofLinesFrom 0 none ((Text.lines Sample.stackedDocument).take 2) ∧
        ofDocument Sample.stackedDocument = above ++ a :: below ∧
        ofDocument gated = above ++ a.withGate (Text.ofNat 9999) 9999 :: below ∧
        ∀ build < 9999, (ofDocument gated).filter (·.appliesTo build) =
          (above ++ below).filter (·.appliesTo build) := by
  have stated : isStated (Text.lines Sample.stackedDocument) 2 = true := by decide +kernel
  have hline : (Text.lines Sample.stackedDocument)[2]? = some "# ^ fg=#000001".toList := by decide +kernel
  exact ⟨stated, ((ofDocument_gate hline (by decide +kernel) (Decimal.denotes_ofNat 9999)).1
    (by decide)).2 stated⟩

/-- A gate with a number above those of builds makes its line a comment, and the line below it then
speaks about that comment. -/
theorem Assertion.ofDocument_gate_large :
    let content := "x\n# ^ fg=#000001\n# ^ fg=#000002\n".toList
    let gated := Text.editLine 1 (afterCarets (gateText (Text.ofNat 4294967296))) content
    isStated (Text.lines content) 1 = true ∧
      (ofDocument content).map (fun a => (a.row, a.rawText, a.minBuild)) =
        [(0, "# ^ fg=#000001".toList, none), (0, "# ^ fg=#000002".toList, none)] ∧
      (ofDocument gated).map (fun a => (a.row, a.rawText, a.minBuild)) =
        [(1, "# ^ fg=#000002".toList, none)] := by
  decide +kernel

end SchemeCheck
