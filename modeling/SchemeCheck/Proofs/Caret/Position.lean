import SchemeCheck.Caret.Position
import SchemeCheck.Proofs.Fixture.Run
set_option autoImplicit false

/-!
The helpers for writing fixtures see what a run sees. They get as far as the run does: where it is
stopped or left out they fail with the words of its notice, and elsewhere the style shown at a position
is the one that the assertions about the position are compared with.
-/

namespace SchemeCheck.Host
open Changing (resolveSyntax_always)

variable {host : Host} {test content : Text}

theorem Stops.value_withFixture {α : Type} {e : FixtureError} (h : host.Stops test e)
    (hload : host.load test = .ok content) (body : Header → View → Theme → α) :
    (host.withFixture test content body).value = .error e := by
  have same : ∀ {content' : Text}, host.load test = .ok content' → content' = content := by
    intro content' loaded
    rw [loaded, Except.ok.injEq] at hload
    exact hload
  cases h with
  | unreadable unread =>
    rw [unread] at hload
    cases hload
  | invalidHeader loaded hread =>
    obtain rfl := same loaded
    simp [withFixture, Changing.withFixture, hread]
  | syntaxMissing opens _ nothing =>
    obtain rfl := same opens.load
    have missing := resolveSyntax_nothing nothing
    simp [withFixture, Changing.withFixture, resolveSyntax_always, opens.read, missing]
  | @ambiguous content' header found opens hfound several =>
    obtain rfl := same opens.load
    have resolved := resolveSyntax_found hfound
    rcases found with _ | ⟨first, _ | ⟨second, rest⟩⟩
    · simp at several
    · simp at several
    · simp [withFixture, Changing.withFixture, resolveSyntax_always, opens.read, resolved, onlyFound]
  | unassigned loaded resolves hassign =>
    obtain rfl := same loaded
    rw [resolves.value_withFixture, withRendered, Changing.value_withRendered, hassign]
  | themeless loaded resolves hassign htheme =>
    obtain rfl := same loaded
    rw [resolves.value_withFixture, withRendered, Changing.value_withRendered, hassign, htheme]
  | unrendered loaded resolves hassign htheme hrender =>
    obtain rfl := same loaded
    rw [resolves.value_withFixture, withRendered, Changing.value_withRendered, hassign, htheme]
    dsimp only
    rw [hrender, Except.map]

theorem LeavesOut.value_withFixture {α : Type} {header : Header}
    (h : host.LeavesOut test content header) (body : Header → View → Theme → α) :
    (host.withFixture test content body).value =
      .error (.syntaxNotFound (header.syntaxFor test)) := by
  have missing := resolveSyntax_nothing h.nothing
  simp [withFixture, Changing.withFixture, resolveSyntax_always, h.read, missing]

theorem renders_or_withFixture_error (hload : host.load test = .ok content) :
    (∃ header syntaxFile theme view, host.Renders test content header syntaxFile theme view) ∨
      ∃ e : FixtureError, (∀ (α : Type) (body : Header → View → Theme → α),
          (host.withFixture test content body).value = .error e) ∧
        ((host.runFixture test).value.status = .error ∨
          (host.runFixture test).value.status = .skipped) ∧
        (host.runFixture test).value.notice = some ⟨e.message, host.fileName test, 0, 0⟩ := by
  rcases host.stops_or_leavesOut_or_renders test with
    ⟨e, stops⟩ | ⟨content', header, leavesOut⟩ | ⟨content', header, syntaxFile, theme, view, renders⟩
  · refine .inr ⟨e, fun α body => stops.value_withFixture hload body, ?_⟩
    rw [runFixture_of_stops stops]
    exact ⟨.inl rfl, rfl⟩
  · have loaded := leavesOut.load
    rw [hload, Except.ok.injEq] at loaded
    subst loaded
    refine .inr ⟨_, fun α body => leavesOut.value_withFixture body, ?_⟩
    rw [leavesOut.value_runFixture]
    exact ⟨.inr rfl, rfl⟩
  · have loaded := renders.load
    rw [hload, Except.ok.injEq] at loaded
    subst loaded
    exact .inl ⟨header, syntaxFile, theme, view, renders⟩

section Rendered
variable {syntaxFile : Text} {header : Header} {theme : Theme} {view : View}

theorem Rendering.value_inspectScope
    (h : host.Rendering test content header syntaxFile theme view) (row column : Nat) :
    (host.inspectScope test content row column).value =
      .ok ⟨Text.trimEnd (view.scopeName (view.textPoint row column)),
        theme.styleAt view host.score row column⟩ := by
  rw [inspectScope, Changing.inspectScope, Changing.value_withFixture_always, h.value_withFixture]
  dsimp only
  rw [(Resolver.faithful_new theme).style_atScope]
  rfl

theorem Renders.mem_failures_iff (h : host.Renders test content header syntaxFile theme view)
    {a : Assertion} (ha : a ∈ Assertion.ofDocument content) (applies : a.appliesTo host.build)
    {column : Nat} (low : a.colBegin ≤ column) (high : column < a.colEnd) :
    (∃ f ∈ (host.runFixture test).value.failures, f.assertion = a.rawText ∧
        f.expected = a.expected ∧ f.row = a.row + 1 ∧ f.column = column + 1) ↔
      a.expected.Misses (theme.styleAt view host.score a.row column) := by
  rw [h.failures_eq]
  constructor
  · rintro ⟨f, hf, -, expected, row, col⟩
    obtain ⟨a', -, hf⟩ := List.mem_flatMap.1 hf
    obtain ⟨column', hcolumn', rfl⟩ := List.mem_map.1 hf
    -- Another line may say the same of the same column; then both are right or both are wrong.
    have same_row : a'.row = a.row := Nat.succ.inj row
    have same_column : column' = column := Nat.succ.inj col
    have same_expected : a'.expected = a.expected := expected
    have misses : a'.expected.Misses (theme.styleAt view host.score a'.row column') := by
      simpa using (List.mem_filter.1 hcolumn').2
    rwa [same_row, same_column, same_expected] at misses
  · intro misses
    have covered : column ∈ a.failingColumns view host.score theme := by
      rw [Assertion.failingColumns, List.mem_filter, List.mem_range'_1]
      exact ⟨⟨low, by omega⟩, by simpa using misses⟩
    refine ⟨a.report (host.fileName test) column (theme.styleAt view host.score a.row column), ?_,
      rfl, rfl, rfl, rfl⟩
    exact List.mem_flatMap.2 ⟨a, List.mem_filter.2 ⟨ha, applies⟩, List.mem_map.2 ⟨column, covered, rfl⟩⟩

end Rendered

/-- The helpers succeed on a fixture just if its run is evaluated, and fail with what the run gives
notice of. Where they succeed, the run reports an assertion at a position just if the style that is
shown there is not as the assertion states. -/
theorem helpers_agree_with_run (hload : host.load test = .ok content) (row column : Nat) :
    let run := (host.runFixture test).value
    let inspected := (host.inspectScope test content row column).value
    let generated := (host.generateAssertions test content row).value
    ((∃ info, inspected = .ok info) ↔ run.status = .passed ∨ run.status = .failed) ∧
    ((∃ text, generated = .ok text) ↔ run.status = .passed ∨ run.status = .failed) ∧
    (∀ e, inspected = .error e → run.notice.map (·.message) = some e.message) ∧
    (∀ e, generated = .error e → run.notice.map (·.message) = some e.message) ∧
    ∀ info, inspected = .ok info → ∀ a ∈ Assertion.ofDocument content,
      a.appliesTo host.build → a.row = row → a.colBegin ≤ column → column < a.colEnd →
        ((∃ f ∈ run.failures, f.assertion = a.rawText ∧ f.expected = a.expected ∧
            f.row = row + 1 ∧ f.column = column + 1) ↔
          ∃ k v, a.expected.get? k = some v ∧ Text.lower (info.style.getD k.key) ≠ v) := by
  intro run inspected generated
  rcases renders_or_withFixture_error hload with
    ⟨header, syntaxFile, theme, view, renders⟩ | ⟨e, fails, status, notice⟩
  · have shown : inspected = _ := renders.value_inspectScope row column
    have written : generated = _ :=
      (Changing.value_withFixture_always ..).trans (renders.value_withFixture _)
    have evaluated : run.status = .passed ∨ run.status = .failed := by
      rw [show run = _ from renders.value_runFixture]
      exact status_evaluate ..
    rw [shown, written]
    refine ⟨iff_of_true ⟨_, rfl⟩ evaluated, iff_of_true ⟨_, rfl⟩ evaluated, nofun, nofun, ?_⟩
    intro info hinfo a ha applies hrow low high
    obtain rfl := Except.ok.inj hinfo
    subst hrow
    exact renders.mem_failures_iff ha applies low high
  · have shown : inspected = .error e := (Changing.value_withFixture_always ..).trans (fails _ _)
    have written : generated = .error e := (Changing.value_withFixture_always ..).trans (fails _ _)
    have stopped : ¬ (run.status = .passed ∨ run.status = .failed) := by
      rcases status with h | h <;> simp [run, h]
    have words : run.notice.map (·.message) = some e.message := by simp [run, notice]
    rw [shown, written]
    refine ⟨iff_of_false nofun stopped, iff_of_false nofun stopped, ?_, ?_, nofun⟩
    · rintro e' same
      rwa [← Except.error.inj same]
    · rintro e' same
      rwa [← Except.error.inj same]

theorem helpers_agree_with_run_sample :
    let host := (Sample.memory Sample.content).toHost
    host.load Sample.fixture = .ok Sample.content ∧
      (∃ info, (host.inspectScope Sample.fixture Sample.content 1 3).value = .ok info) ∧
      ∃ f ∈ (host.runFixture Sample.fixture).value.failures,
        f.assertion = "// ^ fg=#000".toList ∧ f.row = 2 ∧ f.column = 4 := by
  intro host
  have load : host.load Sample.fixture = .ok Sample.content := rfl
  have read : Header.read? Sample.content = some Sample.header := by decide +kernel
  have shown := (Sample.rendering Sample.content read).value_inspectScope 1 3
  have stated : ⟨1, 3, 4, ⟨some "#000".toList, none, none⟩, "// ^ fg=#000".toList, none⟩ ∈
      Assertion.ofDocument Sample.content := by decide +kernel
  have agree := (helpers_agree_with_run load 1 3).2.2.2.2 _ shown _ stated rfl rfl (by decide)
    (by decide)
  obtain ⟨f, hf, text, -, row, column⟩ :=
    agree.2 ⟨.foreground, "#000".toList, rfl, by decide +kernel⟩
  exact ⟨load, ⟨_, shown⟩, f, hf, text, row, column⟩

end SchemeCheck.Host
