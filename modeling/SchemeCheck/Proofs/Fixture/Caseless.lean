import SchemeCheck.Proofs.Catalog.Assigned
import SchemeCheck.Proofs.Fixture.Letters
import SchemeCheck.Proofs.Fixture.Run
import SchemeCheck.Proofs.Fixture.Search
import SchemeCheck.Proofs.Theme.Colors
set_option autoImplicit false

/-!
Runs that the case of letters does not change. A run compares colors in lower case, so neither the
letters of the colors in the color scheme nor those after the carets of a fixture make a difference in
its result. Only a header that goes on over the end of a line can take such letters into a name.
-/

namespace SchemeCheck

inductive SameOutcome {ε α β : Type} (R : α → β → Prop) : Except ε α → Except ε β → Prop where
  | error (e : ε) : SameOutcome R (.error e) (.error e)
  | ok {a : α} {b : β} : R a b → SameOutcome R (.ok a) (.ok b)

theorem SameOutcome.trans {ε : Type} {a b c : Except ε View} (h : SameOutcome View.SameScopes a b)
    (h' : SameOutcome View.SameScopes b c) : SameOutcome View.SameScopes a c := by
  cases h with
  | error e => exact h'
  | ok first =>
    cases h' with
    | ok second => exact .ok fun row column => (first row column).trans (second row column)

theorem failure?_congr {style style' : Style}
    (h : ∀ k : Attribute, Text.lower (style.getD k.key) = Text.lower (style'.getD k.key)) (file : Text)
    (a : Assertion) (column : Nat) : failure? file a column style = failure? file a column style' := by
  have actual : a.expected.actual style = a.expected.actual style' :=
    congrArg a.expected.withValues (funext h)
  unfold failure?
  rw [actual]

namespace Host

def withText (host : Host) (path text : Text) : Host :=
  { host with load := fun p => if p = path then .ok text else host.load p }

/-- Views show the color scheme they are given, and that decides on styles alone. -/
structure ShowsThemes (host : Host) (score : Scorer) : Prop where
  reports : ∀ {syntaxFile name : Text} {theme : Theme} {content : Text} {view : View},
    host.render syntaxFile name theme content = .ok view → view.Reports score theme
  scopes : ∀ (syntaxFile name : Text) (theme theme' : Theme) (content : Text),
    SameOutcome View.SameScopes (host.render syntaxFile name theme content)
      (host.render syntaxFile name theme' content)

/-- Scopes do not depend on what stands after the carets of assertion lines. -/
def ScopesIgnoreClauses (host : Host) : Prop :=
  ∀ (syntaxFile name : Text) (theme : Theme) (content content' : Text), Respelled content content' →
    SameOutcome View.SameScopes (host.render syntaxFile name theme content)
      (host.render syntaxFile name theme content')

variable {host : Host} {path text text' : Text}

theorem evaluate_congr {content content' : Text} {view view' : View} {theme theme' : Theme}
    (assertions : Assertion.ofDocument content = Assertion.ofDocument content')
    (styles : ∀ row column (k : Attribute),
      Text.lower ((theme.styleAt view host.score row column).getD k.key) =
        Text.lower ((theme'.styleAt view' host.score row column).getD k.key))
    (file syntaxFile : Text) (header : Header) :
    FixtureRun.evaluate host file syntaxFile header content view theme =
      FixtureRun.evaluate host file syntaxFile header content' view' theme' := by
  have failures : ∀ columns, failuresFrom view host.score file (Resolver.new theme) columns =
      failuresFrom view' host.score file (Resolver.new theme') columns := by
    intro columns
    rw [failuresFrom_eq file (Resolver.faithful_new theme),
      failuresFrom_eq file (Resolver.faithful_new theme')]
    exact List.filterMap_congr fun c _ => failure?_congr (styles c.1.row c.2) file c.1 c.2
  unfold FixtureRun.evaluate
  rw [assertions]
  simp only [failures]

theorem resolveSyntaxAmong_withText (name : Text) (suffixes : List Text) :
    ((host.withText path text).resolveSyntaxAmong name suffixes).value =
      (host.resolveSyntaxAmong name suffixes).value := by
  induction suffixes with
  | nil => rfl
  | cons suffix suffixes ih =>
    have same : (host.withText path text).find = host.find := rfl
    rw [value_resolveSyntaxAmong_cons, value_resolveSyntaxAmong_cons, ih, same]

theorem resolveSyntax_withText (name : Text) :
    ((host.withText path text).resolveSyntax name).value = (host.resolveSyntax name).value :=
  resolveSyntaxAmong_withText name Resource.syntaxSuffixes

theorem readTheme_withText (host : Host) (path text p : Text) :
    (host.withText path text).readTheme p =
      if p = path then Theme.ofDocument path text else host.readTheme p := by
  unfold readTheme withText
  by_cases here : p = path
  · simp [here]
  · simp [here]

theorem value_withRendered_congr {score : Scorer} (shows : host.ShowsThemes score)
    {content content' : Text} {header : Header}
    (assertions : Assertion.ofDocument content = Assertion.ofDocument content')
    (themes : SameOutcome Theme.SameColors ((host.withText path text).loadTheme header.schemePath).value
      ((host.withText path text').loadTheme header.schemePath).value)
    (scopes : ∀ syntaxFile name theme theme', SameOutcome View.SameScopes
      (host.render syntaxFile name theme content) (host.render syntaxFile name theme' content'))
    (file syntaxFile : Text) :
    ((host.withText path text).withRendered header syntaxFile content
        (FixtureRun.evaluate host file syntaxFile header content)).value =
      ((host.withText path text').withRendered header syntaxFile content'
        (FixtureRun.evaluate host file syntaxFile header content')).value := by
  have assign : ∀ t, (host.withText path t).assign = host.assign := fun _ => rfl
  have render : ∀ t, (host.withText path t).render = host.render := fun _ => rfl
  rw [withRendered, withRendered, Changing.value_withRendered, Changing.value_withRendered, assign, assign,
    render, render]
  cases host.assign syntaxFile with
  | error e => rfl
  | ok =>
    generalize ((host.withText path text).loadTheme header.schemePath).value = loaded at themes ⊢
    generalize ((host.withText path text').loadTheme header.schemePath).value = loaded' at themes ⊢
    cases themes with
    | error e => rfl
    | @ok theme theme' colors =>
      have shown := scopes syntaxFile header.schemePath theme theme'
      dsimp only
      cases hrender : host.render syntaxFile header.schemePath theme content <;>
        cases hrender' : host.render syntaxFile header.schemePath theme' content' <;>
        rw [hrender, hrender'] at shown <;> cases shown
      · rfl
      · next view view' same =>
        have styles := colors.lower_styleAt (shows.reports hrender) (shows.reports hrender') same host.score
        simp only [Except.map, evaluate_congr assertions styles file syntaxFile header]

theorem value_runFixture_congr {score : Scorer} (shows : host.ShowsThemes score)
    {test content content' : Text} (load : (host.withText path text).load test = .ok content)
    (load' : (host.withText path text').load test = .ok content')
    (read : Header.read? content' = Header.read? content)
    (assertions : Assertion.ofDocument content = Assertion.ofDocument content')
    (themes : ∀ header, Header.read? content = some header →
      SameOutcome Theme.SameColors ((host.withText path text).loadTheme header.schemePath).value
        ((host.withText path text').loadTheme header.schemePath).value)
    (scopes : ∀ syntaxFile name theme theme', SameOutcome View.SameScopes
      (host.render syntaxFile name theme content) (host.render syntaxFile name theme' content')) :
    ((host.withText path text).runFixture test).value =
      ((host.withText path text').runFixture test).value := by
  have fileName : ∀ t, (host.withText path t).fileName = host.fileName := fun _ => rfl
  have evaluate : ∀ t, FixtureRun.evaluate (host.withText path t) = FixtureRun.evaluate host := fun _ => rfl
  simp only [runFixture, Changing.runFixture, Changing.value_bind_always, Changing.value_now,
    Changing.value_load, Hosts.always_apply, load, load', read, fileName]
  cases hread : Header.read? content with
  | none => rfl
  | some header =>
    simp only [Changing.value_bind_always, Changing.resolveSyntax_always, resolveSyntax_withText]
    cases (host.resolveSyntax (header.syntaxFor test)).value with
    | error e =>
      cases e with
      | syntaxNotFound name =>
        dsimp only
        cases header.skipIfMissing <;> rfl
      | _ => rfl
    | ok syntaxFile =>
      have same := value_withRendered_congr shows assertions (themes header hread) scopes
        (host.fileName test) syntaxFile
      simp only [Changing.value_bind_always, Changing.value_withRendered_always, evaluate, same]
      cases ((host.withText path text').withRendered header syntaxFile content'
        (FixtureRun.evaluate host (host.fileName test) syntaxFile header content')).value <;> rfl

theorem sameOutcome_readTheme (host : Host) (path : Text) :
    SameOutcome Theme.SameColors (host.readTheme path) (host.readTheme path) := by
  cases host.readTheme path with
  | error e => exact .error e
  | ok theme => exact .ok (.refl theme)

/-- In a host whose views show the color scheme, neither other letters in the colors of a scheme nor,
where the header ends on its lines, other letters after the carets of a fixture change its run. -/
theorem runFixture_caseless {host : Host} {score : Scorer} (shows : host.ShowsThemes score) :
    (∀ test path text text' theme theme', path ≠ test → Theme.ofDocument path text = .ok theme →
      Theme.ofDocument path text' = .ok theme' → theme.SameColors theme' →
        ((host.withText path text).runFixture test).value =
          ((host.withText path text').runFixture test).value) ∧
    (host.ScopesIgnoreClauses → ∀ test content content', Respelled content content' →
      (∀ header, Header.read? content = some header →
        header.IsUnbroken ∧ host.themeResource header.schemePath ≠ test) →
        ((host.withText test content).runFixture test).value =
          ((host.withText test content').runFixture test).value) := by
  constructor
  · intro test path text text' theme theme' ne read read' colors
    have elsewhere : ∀ t, (host.withText path t).load test = host.load test := by
      intro t
      simp [withText, ne.symm]
    cases hload : host.load test with
    | error e =>
      rw [runFixture_of_stops (.unreadable ((elsewhere text).trans hload)),
        runFixture_of_stops (.unreadable ((elsewhere text').trans hload))]
      rfl
    | ok content =>
      refine value_runFixture_congr shows ((elsewhere text).trans hload) ((elsewhere text').trans hload)
        rfl rfl (fun header _ => ?_) fun file name t t' => shows.scopes file name t t' content
      rw [value_loadTheme, value_loadTheme, readTheme_withText, readTheme_withText]
      have same : ∀ t, (host.withText path t).themeResource header.schemePath =
          host.themeResource header.schemePath := fun _ => rfl
      rw [same, same]
      split
      · rw [read, read']
        exact .ok colors
      · exact host.sameOutcome_readTheme _
  · intro ignore test content content' respelled unbroken
    refine value_runFixture_congr shows (if_pos rfl) (if_pos rfl)
      (respelled.read?_eq fun header h => (unbroken header h).1) respelled.ofDocument_eq
      (fun header h => ?_) fun file name t t' => ?_
    · have other := (unbroken header h).2
      have same : ∀ t, (host.withText test t).themeResource header.schemePath =
          host.themeResource header.schemePath := fun _ => rfl
      rw [value_loadTheme, value_loadTheme, readTheme_withText, readTheme_withText, same, same,
        if_neg other, if_neg other]
      exact host.sameOutcome_readTheme _
    · exact (shows.scopes file name t t' content).trans (ignore file name t' content content' respelled)

end Host

theorem MemoryHost.showsThemes (m : MemoryHost) : m.toHost.ShowsThemes m.score where
  reports := by
    intro syntaxFile name theme content view h
    cases hfails : m.renderError with
    | some reason => simp [toHost, hfails] at h
    | none =>
      simp only [toHost, hfails, Except.ok.injEq] at h
      subst h
      exact ⟨rfl, fun _ => rfl⟩
  scopes := by
    intro syntaxFile name theme theme' content
    cases hfails : m.renderError with
    | some reason =>
      simp only [toHost, hfails]
      exact .error _
    | none =>
      simp only [toHost, hfails]
      exact .ok fun _ _ => rfl

theorem MemoryHost.scopesIgnoreClauses (m : MemoryHost) : m.toHost.ScopesIgnoreClauses :=
  fun _ _ theme content _ _ => m.showsThemes.scopes _ _ theme theme content

namespace BufferView

theorem setContent_setScheme (v : BufferView) (name content : Text) (theme : Theme) :
    (v.setScheme name theme).setContent content =
      ((v.setContent content).1, (v.setContent content).2.setScheme name theme) := by
  have same : (v.setScheme name theme).grammar = v.grammar := rfl
  unfold setContent
  rw [same]
  split <;> rfl

theorem score_assignSyntax (v : BufferView) (file : Text) : (v.assignSyntax file).2.score = v.score := by
  unfold assignSyntax
  split
  · exact (setContent_kept _ _).2.2
  · rfl

end BufferView

namespace DiskHost

theorem exists_shown (h : DiskHost) (syntaxFile content : Text) :
    ∃ shown : Except FixtureError BufferView, (∀ v, shown = .ok v → v.score = Selector.score) ∧
      ∀ name theme, h.toHost.render syntaxFile name theme content =
        shown.map fun v => (v.setScheme name theme).toView := by
  have score : ((h.newView.assignSyntax syntaxFile).2.setContent content).2.score = Selector.score := by
    rw [(BufferView.setContent_kept _ _).2.2, BufferView.score_assignSyntax]
    rfl
  simp only [toHost, DiskHost.render, BufferView.setContent_setScheme]
  cases (h.newView.assignSyntax syntaxFile).1 with
  | error e => exact ⟨.error e, by simp, fun _ _ => rfl⟩
  | ok =>
    cases ((h.newView.assignSyntax syntaxFile).2.setContent content).1 with
    | error e => exact ⟨.error e, by simp, fun _ _ => rfl⟩
    | ok =>
      refine ⟨.ok ((h.newView.assignSyntax syntaxFile).2.setContent content).2, ?_, fun _ _ => rfl⟩
      intro v hv
      cases hv
      exact score

theorem showsThemes (h : DiskHost) : h.toHost.ShowsThemes Selector.score where
  reports := by
    intro syntaxFile name theme content view hview
    obtain ⟨shown, score, render⟩ := h.exists_shown syntaxFile content
    rw [render] at hview
    cases shown with
    | error e => cases hview
    | ok v =>
      cases hview
      refine ⟨rfl, fun path => ?_⟩
      rw [← score v rfl]
      rfl
  scopes := by
    intro syntaxFile name theme theme' content
    obtain ⟨shown, -, render⟩ := h.exists_shown syntaxFile content
    rw [render, render]
    cases shown with
    | error e => exact .error e
    | ok v => exact .ok fun _ _ => rfl

end DiskHost

namespace Sample

def stating (color : Text) : Text := header.render ++ "\nab\n// ^ fg=".toList ++ color

theorem respelled_stating : Respelled (stating "#FFF".toList) (stating "#fff".toList) where
  letters := by decide +kernel
  lines := by
    have upper : Text.lines (stating "#FFF".toList) =
        [header.render, "ab".toList, "// ^ fg=#FFF".toList] := by decide +kernel
    have lower : Text.lines (stating "#fff".toList) =
        [header.render, "ab".toList, "// ^ fg=#fff".toList] := by decide +kernel
    rw [upper, lower]
    refine .cons (.same _) (.cons (.same _) (.cons ?_ .nil))
    exact .afterCarets "// ".toList " fg=#FFF".toList " fg=#fff".toList 1 (by decide +kernel)
      ⟨rfl, by decide, by decide, by decide⟩ ⟨rfl, by decide, by decide, by decide⟩ (by decide)

def lowerSchemeText : Text := "[null, \x7b\"foreground\": \"#fff\"\x7d]".toList

def lowerTheme : ModernTheme :=
  ⟨none, Dict.empty.insert "foreground".toList "#fff".toList, Dict.empty, []⟩

theorem sameColors_lowerTheme : Theme.SameColors (.modern theme) (.modern lowerTheme) :=
  .modern rfl ((Style.SameColors.refl Dict.empty).insert (.inr ⟨.inl rfl, by decide, by decide +kernel⟩))
    rfl .nil

end Sample

theorem Host.runFixture_caseless_sample :
    let host := (Sample.memory (Sample.stating "#FFF".toList)).toHost
    host.ShowsThemes (Sample.memory (Sample.stating "#FFF".toList)).score ∧ host.ScopesIgnoreClauses ∧
      ((host.withText Sample.scheme Sample.schemeText).runFixture Sample.fixture).value =
        ((host.withText Sample.scheme Sample.lowerSchemeText).runFixture Sample.fixture).value ∧
      ((host.withText Sample.fixture (Sample.stating "#FFF".toList)).runFixture Sample.fixture).value =
        ((host.withText Sample.fixture (Sample.stating "#fff".toList)).runFixture Sample.fixture).value := by
  intro host
  have shows := (Sample.memory (Sample.stating "#FFF".toList)).showsThemes
  have ignore := (Sample.memory (Sample.stating "#FFF".toList)).scopesIgnoreClauses
  obtain ⟨colors, clauses⟩ := Host.runFixture_caseless shows
  refine ⟨shows, ignore, ?_, ?_⟩
  · exact colors Sample.fixture Sample.scheme _ _ (.modern Sample.theme) (.modern Sample.lowerTheme)
      (by decide) (by decide +kernel) (by decide +kernel) Sample.sameColors_lowerTheme
  · have read : Header.read? (Sample.stating "#FFF".toList) = some Sample.header := by decide +kernel
    refine clauses ignore _ _ _ Sample.respelled_stating fun header h => ?_
    cases read.symm.trans h
    exact ⟨⟨by decide, by decide⟩, by decide +kernel⟩

namespace Sample

def broken (letter : Text) : Text :=
  "# COLOR SCHEME TEST \"s\n# ^ fg=".toList ++ letter ++ ".hidden-color-scheme\"".toList

def brokenScheme : Text := "s\n# ^ fg=B.hidden-color-scheme".toList

def brokenFixture : Text := "t.x".toList

def brokenHost : MemoryHost :=
  { memory [] with
    files := (Dict.empty.insert syntaxFile []).insert brokenScheme schemeText }

theorem respelled_broken : Respelled (broken ['B']) (broken ['b']) where
  letters := by decide +kernel
  lines := by
    have upper : Text.lines (broken ['B']) =
        ["# COLOR SCHEME TEST \"s".toList, "# ^ fg=B.hidden-color-scheme\"".toList] := by decide +kernel
    have lower : Text.lines (broken ['b']) =
        ["# COLOR SCHEME TEST \"s".toList, "# ^ fg=b.hidden-color-scheme\"".toList] := by decide +kernel
    rw [upper, lower]
    refine .cons (.same _) (.cons ?_ .nil)
    exact .afterCarets ['#', ' '] " fg=B.hidden-color-scheme\"".toList
      " fg=b.hidden-color-scheme\"".toList 1 (by decide +kernel)
      ⟨rfl, by decide, by decide, by decide⟩ ⟨rfl, by decide, by decide, by decide⟩ (by decide +kernel)

end Sample

/-- A header that goes on over the end of a line makes a letter of an assertion line count. -/
theorem Host.runFixture_broken :
    Sample.brokenHost.toHost.ShowsThemes Sample.brokenHost.score ∧
      Sample.brokenHost.toHost.ScopesIgnoreClauses ∧
      Respelled (Sample.broken ['B']) (Sample.broken ['b']) ∧
      ((Sample.brokenHost.toHost.withText Sample.brokenFixture (Sample.broken ['B'])).runFixture
        Sample.brokenFixture).value.status = .failed ∧
      ((Sample.brokenHost.toHost.withText Sample.brokenFixture (Sample.broken ['b'])).runFixture
        Sample.brokenFixture).value.status = .error :=
  ⟨Sample.brokenHost.showsThemes, Sample.brokenHost.scopesIgnoreClauses, Sample.respelled_broken,
    by decide +kernel, by decide +kernel⟩

end SchemeCheck
