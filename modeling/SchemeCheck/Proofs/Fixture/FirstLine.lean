import SchemeCheck.Proofs.Fixture.Directive
import SchemeCheck.Proofs.Fixture.Letters
set_option autoImplicit false

/-!
The header and the first line of a document. Nothing in the grammar keeps a header on one line: the
blanks behind a comment opener and the names in quotes may hold line ends. A header without any is that
of its first line, and one with a line end is not.
-/

namespace SchemeCheck
namespace Header

/-- No line ends before the header does, neither in its opening nor in a name. -/
def IsOnOneLine (h : Header) (content : Text) : Prop :=
  h.IsUnbroken ∧ ∃ opening rest, Opening h.opener opening ∧ '\n' ∉ opening ∧
    content = opening ++ (title ++ rest)

theorem Opening.unique {o o' : Option CommentOpener} {opening opening' rest rest' : Text}
    (h : Opening o opening) (h' : Opening o' opening')
    (same : opening ++ (title ++ rest) = opening' ++ (title ++ rest')) :
    opening = opening' ∧ rest = rest' := by
  have begins : ∀ t, title ++ t = 'C' :: (title.tail ++ t) := fun t => rfl
  have body : title ++ rest = title ++ rest' := by
    rw [begins, begins] at same ⊢
    have read := readOpener_opening h (title.tail ++ rest)
    rw [same, readOpener_opening h'] at read
    exact (congrArg (·.2) read).symm
  rw [body] at same
  exact ⟨List.append_cancel_right same, List.append_cancel_left body⟩

inductive SyntaxPart : Text → Prop where
  | skippable {name : Text} (isName : IsName name) : SyntaxPart (skipWords ++ quoted name)
  | required {name : Text} (isName : IsName name) : SyntaxPart (quoted name)

theorem getLast?_quoted (name : Text) : (quoted name).getLast? = some '"' := by
  rw [quoted, ← List.cons_append, ← List.cons_append, List.getLast?_concat]

theorem SyntaxPart.getLast? {part : Text} (h : SyntaxPart part) : part.getLast? = some '"' := by
  cases h with
  | skippable isName => rw [List.getLast?_append, getLast?_quoted, Option.some_or]
  | required isName => exact getLast?_quoted _

/-- A second quote is left open. -/
def LeavesOpen (rest : Text) : Prop :=
  ∃ words ∈ [[], skipWords], ∃ start, rest = words ++ ' ' :: '"' :: start ∧ '"' ∉ start

variable {first after rest : Text} {h : Header}

/-- What comes later says nothing of the syntax if no syntax reaches into it. -/
theorem readSyntax_append (within : ∀ part behind, SyntaxPart part → part ++ behind = rest ++ after →
    ∃ behind', rest = part ++ behind') : readSyntax (rest ++ after) = readSyntax rest := by
  rcases syntax_cases (rest ++ after) with
    ⟨name, behind, isName, form⟩ | ⟨name, behind, isName, form⟩ | nothing
  · obtain ⟨behind', rfl⟩ := within _ behind (.skippable isName) (by rw [form, List.append_assoc])
    rw [List.append_assoc, statesSyntax_iff.1 (statesSyntax_skippable isName _),
      statesSyntax_iff.1 (statesSyntax_skippable isName _)]
  · obtain ⟨behind', rfl⟩ := within _ behind (.required isName) form.symm
    rw [List.append_assoc, statesSyntax_iff.1 (statesSyntax_required isName _),
      statesSyntax_iff.1 (statesSyntax_required isName _)]
  · have whole := (statesSyntax_readSyntax (rest ++ after)).unnamed nothing
    have part := (statesSyntax_readSyntax rest).unnamed fun name behind isName =>
      ⟨fun form => (nothing name (behind ++ after) isName).1 (by simp [form]),
        fun form => (nothing name (behind ++ after) isName).2 (by simp [form])⟩
    exact Prod.ext (whole.1.trans part.1.symm) (whole.2.trans part.2.symm)

theorem readSyntax_append_of_not_mem (free : '"' ∉ after) :
    readSyntax (rest ++ after) = readSyntax rest :=
  readSyntax_append fun _ _ part form => Text.exists_append_of_getLast? form part.getLast? free

theorem readSyntax_append_of_not_leavesOpen (closed : ¬ LeavesOpen rest) (ending : Text.AtLineEnd after) :
    readSyntax (rest ++ after) = readSyntax rest := by
  refine readSyntax_append fun part behind named form => ?_
  have shape : ∃ words ∈ [[], skipWords], ∃ name, '"' ∉ name ∧
      part = (words ++ [' ', '"']) ++ (name ++ ['"']) := by
    cases named with
    | skippable isName => exact ⟨skipWords, by simp, _, isName.2, by simp [quoted]⟩
    | required isName => exact ⟨[], by simp, _, isName.2, rfl⟩
  obtain ⟨words, hwords, name, free, rfl⟩ := shape
  have above : '\n' ∉ words ++ [' ', '"'] ∧ (words ++ [' ', '"']).getLast? ≠ some '\r' := by
    simp only [List.mem_cons, List.not_mem_nil, or_false] at hwords
    rcases hwords with rfl | rfl <;> decide
  rw [List.append_assoc] at form
  obtain ⟨start, rfl, hstart⟩ := Text.exists_append_of_atLineEnd form ending above.1 above.2
  rcases List.append_eq_append_iff.1 hstart with ⟨behind', rfl, -⟩ | ⟨beyond, hname, -⟩
  · exact ⟨behind', by simp⟩
  · rcases List.eq_nil_or_concat beyond with rfl | ⟨inner, d, rfl⟩
    · exact ⟨[], by simp [hname]⟩
    · -- The name goes on behind the line, which leaves its quote open.
      rw [List.concat_eq_append, ← List.append_assoc] at hname
      obtain ⟨rfl, -⟩ := List.append_inj' hname rfl
      exact absurd ⟨words, hwords, start, by simp, fun quote => free (List.mem_append_left _ quote)⟩ closed

/-- A quote below closes the one that is left open, and a name runs over the end of the line. -/
theorem exists_mem_readSyntax_of_leavesOpen (opens : LeavesOpen rest) (ending : Text.AtLineEnd after)
    (quote : '"' ∈ after) : ∃ name ∈ (readSyntax (rest ++ after)).1, '\n' ∈ name := by
  obtain ⟨words, hwords, start, rfl, free⟩ := opens
  obtain ⟨below, beyond, rfl, noQuote⟩ := List.eq_append_cons_of_mem quote
  have feed := ending.mem (by decide) (by decide)
  have isName : IsName (start ++ below) :=
    ⟨fun none => by simp [(List.append_eq_nil_iff.1 none).2] at feed, by simp [free, noQuote]⟩
  have form : words ++ ' ' :: '"' :: start ++ (below ++ '"' :: beyond) =
      words ++ (quoted (start ++ below) ++ beyond) := by simp [quoted]
  refine ⟨start ++ below, ?_, List.mem_append_right _ feed⟩
  simp only [List.mem_cons, List.not_mem_nil, or_false] at hwords
  rw [form]
  rcases hwords with rfl | rfl
  · rw [List.nil_append, statesSyntax_iff.1 (statesSyntax_required isName beyond)]
    rfl
  · rw [← List.append_assoc, statesSyntax_iff.1 (statesSyntax_skippable isName beyond)]
    rfl

theorem StatesSyntax.of_append {syntaxName : Option Text} {skip : Bool} (ending : Text.AtLineEnd after)
    (states : StatesSyntax (rest ++ after) syntaxName skip) (free : ∀ name ∈ syntaxName, '\n' ∉ name) :
    StatesSyntax rest syntaxName skip := by
  rw [statesSyntax_iff, ← readSyntax_append fun part behind named form => ?_, statesSyntax_iff.1 states]
  have last : part.getLast? ≠ some '\r' := by
    rw [named.getLast?]
    decide
  suffices above : '\n' ∉ part by
    obtain ⟨behind', rfl, -⟩ := Text.exists_append_of_atLineEnd form ending above last
    exact ⟨behind', rfl⟩
  cases named with
  | @skippable name isName =>
    obtain ⟨rfl, -⟩ := states.skippable name behind isName (by rw [← form, List.append_assoc])
    have words : '\n' ∉ skipWords := by decide
    simp [quoted, words, free name rfl]
  | @required name isName =>
    obtain ⟨rfl, -⟩ := states.required name behind isName form.symm
    simp [quoted, free name rfl]

theorem StatesSyntax.not_mem {syntaxName : Option Text} {skip : Bool} {c : Char}
    (states : StatesSyntax rest syntaxName skip) (free : c ∉ rest) : ∀ name ∈ syntaxName, c ∉ name := by
  intro name hname inside
  rcases syntax_cases rest with ⟨name', behind, isName, form⟩ | ⟨name', behind, isName, form⟩ | nothing
  · obtain ⟨rfl, -⟩ := states.skippable name' behind isName form
    obtain rfl := Option.some.inj hname
    exact free (by simp [form, quoted, inside])
  · obtain ⟨rfl, -⟩ := states.required name' behind isName form
    obtain rfl := Option.some.inj hname
    exact free (by simp [form, quoted, inside])
  · obtain ⟨rfl, -⟩ := states.unnamed nothing
    contradiction

theorem isOnOneLine_of_read?_first (free : '\n' ∉ first) (hread : read? first = some h) (after : Text) :
    h.IsOnOneLine (first ++ after) := by
  obtain ⟨opening, rest, hopening, -, rfl, states⟩ := read?_eq_some_iff.1 hread
  simp only [List.mem_append, List.mem_cons, not_or] at free
  refine ⟨⟨free.2.2.1, states.not_mem free.2.2.2.2⟩, opening, h.colorScheme ++ '"' :: rest ++ after,
    hopening, free.1, by simp only [List.append_assoc]⟩

theorem read?_first_of_isOnOneLine (ending : Text.AtLineEnd after)
    (hread : read? (first ++ after) = some h) (oneLine : h.IsOnOneLine (first ++ after)) :
    read? first = some h := by
  obtain ⟨opening, rest, hopening, isName, hcontent, states⟩ := read?_eq_some_iff.1 hread
  obtain ⟨⟨scheme, names⟩, opening', rest', hopening', free, hcontent'⟩ := oneLine
  obtain ⟨rfl, -⟩ := hopening'.unique hopening (hcontent'.symm.trans hcontent)
  have above : '\n' ∉ opening' ++ (title ++ (h.colorScheme ++ ['"'])) := by
    have titled : '\n' ∉ title := by decide
    simp [free, titled, scheme]
  have form : opening' ++ (title ++ (h.colorScheme ++ ['"'])) ++ rest = first ++ after := by
    rw [hcontent]
    simp
  obtain ⟨behind, rfl, rfl⟩ := Text.exists_append_of_atLineEnd form ending above (by simp)
  refine read?_eq_some_iff.2 ⟨opening', behind, hopening, isName, by simp, states.of_append ending names⟩

/-- A document has the header of its first line just if its own header, where it has one, is on one
line. -/
theorem read?_firstLine (content : Text) : read? (Text.firstLine content) = read? content ↔
    ∀ h, read? content = some h → h.IsOnOneLine content := by
  obtain ⟨free, after, split, ending⟩ := Text.exists_firstLine_append content
  constructor
  · intro same h hread
    rw [← same] at hread
    rw [split]
    exact isOnOneLine_of_read?_first free hread after
  · intro oneLine
    cases hread : read? content with
    | some h =>
      have onOneLine := oneLine h hread
      rw [split] at hread onOneLine
      exact read?_first_of_isOnOneLine ending hread onOneLine
    | none =>
      -- What begins with a header is read as one, whatever follows.
      rw [Option.eq_none_iff_forall_ne_some]
      intro h hfirst
      obtain ⟨opening, rest, hopening, isName, hform, -⟩ := read?_eq_some_iff.1 hfirst
      obtain ⟨h', hread', -⟩ := exists_read? hopening isName (rest ++ after)
      rw [split, hform] at hread
      simp only [List.append_assoc, List.cons_append] at hread
      rw [hread] at hread'
      contradiction

/-- A header on one line stays when lines are put below it, unless one of them closes a quote that its
line leaves open. -/
theorem read?_of_insertedBelow {row : Nat} {inserted : List Text} {content content' : Text}
    (hread : read? content = some h) (oneLine : h.IsOnOneLine content)
    (inside : Text.InsertedBelow row inserted content content')
    (kept : (∀ h', read? content' = some h' → h'.IsOnOneLine content') ∨
      ∀ line ∈ inserted, '"' ∉ line) : read? content' = some h := by
  have onFirst : read? (Text.firstLine content) = some h := by
    rw [(read?_firstLine content).2 fun h' hread' => ?_, hread]
    cases hread.symm.trans hread'
    exact oneLine
  have ne : content ≠ [] := fun none => by
    rw [none] at hread
    cases hread
  rcases kept with stays | free
  · rw [← (read?_firstLine content').2 stays, inside.firstLine_eq ne, onFirst]
  obtain ⟨after, after', split, ending, split', ending', below⟩ := inside.exists_below ne
  obtain ⟨opening, rest, hopening, isName, hfirst, states⟩ := read?_eq_some_iff.1 onFirst
  obtain ⟨whole, hwhole, -, -, wholeStates⟩ := exists_read? hopening isName (rest ++ after)
  have same : whole = h := by
    rw [split, hfirst] at hread
    exact Option.some.inj (hwhole.symm.trans (by simpa using hread))
  have unchanged : readSyntax (rest ++ after') = readSyntax rest := by
    by_cases opens : LeavesOpen rest
    · refine readSyntax_append_of_not_mem fun quote => ?_
      rcases below '"' (by decide) (by decide) quote with old | ⟨line, new, quote⟩
      · obtain ⟨name, hname, feed⟩ := exists_mem_readSyntax_of_leavesOpen opens ending old
        rw [statesSyntax_iff.1 wholeStates, same] at hname
        exact oneLine.1.2 name hname feed
      · exact free line new quote
    · exact readSyntax_append_of_not_leavesOpen opens ending'
  refine read?_eq_some_iff.2 ⟨opening, rest ++ after', hopening, isName, by simp [split', hfirst], ?_⟩
  rw [statesSyntax_iff, unchanged, statesSyntax_iff.1 states]

end Header

namespace Sample

def headed : Text := "#\tCOLOR SCHEME TEST \"a\" \"C\"\r\n b \"".toList

theorem isOnOneLine_headed :
    ∀ h, Header.read? headed = some h → h.IsOnOneLine headed := by
  intro h hread
  have here : Header.read? headed = some ⟨['a'], some ['C'], false, some .hash⟩ := by decide +kernel
  obtain rfl := Option.some.inj (hread.symm.trans here)
  have blank : ∀ c ∈ ['\t'], isBlank c := Text.forall_mem_of_all (by decide)
  refine ⟨⟨by decide, by simp⟩, [] ++ (CommentOpener.hash.text ++ ['\t']),
    "a\" \"C\"\r\n b \"".toList, .comment .hash (.inl rfl) blank, by decide, by decide +kernel⟩

end Sample

theorem Header.read?_firstLine_sample :
    (∀ h, read? Sample.headed = some h → h.IsOnOneLine Sample.headed) ∧
      read? (Text.firstLine Sample.headed) = some ⟨['a'], some ['C'], false, some .hash⟩ := by
  refine ⟨Sample.isOnOneLine_headed, ?_⟩
  rw [(read?_firstLine Sample.headed).2 Sample.isOnOneLine_headed]
  decide +kernel

/-- The line below closes a quote of the first line, which gives it a header or another syntax, and a
title on the second line is read behind an opener on the first. -/
theorem Header.read?_below :
    (read? "# COLOR SCHEME TEST \"x\ny\"".toList = some ⟨"x\ny".toList, none, false, some .hash⟩ ∧
      read? (Text.firstLine "# COLOR SCHEME TEST \"x\ny\"".toList) = none) ∧
    (read? "COLOR SCHEME TEST \"x\" \"y\nz\"".toList = some ⟨['x'], some "y\nz".toList, false, none⟩ ∧
      read? (Text.firstLine "COLOR SCHEME TEST \"x\" \"y\nz\"".toList) =
        some ⟨['x'], none, false, none⟩) ∧
    read? "#\nCOLOR SCHEME TEST \"x\"".toList = some ⟨['x'], none, false, some .hash⟩ ∧
      read? (Text.firstLine "#\nCOLOR SCHEME TEST \"x\"".toList) = none := by
  decide +kernel

end SchemeCheck
