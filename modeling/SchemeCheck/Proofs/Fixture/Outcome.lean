import SchemeCheck.Fixture.Run
set_option autoImplicit false

/-!
How a fixture ends. Whatever a host answers, a run is stopped by one error, is left out because its
syntax is missing, or is rendered and evaluated, and the answers alone say which. The three searches
for a syntax count in their order: the first that finds anything decides.
-/

namespace SchemeCheck

namespace Changing
variable {host : Host}

theorem resolveSyntax_always (name : Text) :
    (resolveSyntax name).on (.always host) = host.resolveSyntax name := rfl

theorem loadTheme_always (name : Text) : (loadTheme name).on (.always host) = host.loadTheme name := rfl

theorem value_withRendered {α : Type} (header : Header) (syntaxFile content : Text)
    (body : Host → View → Theme → α) :
    ((withRendered header syntaxFile content body).on (.always host)).value =
      match host.assign syntaxFile, (host.loadTheme header.schemePath).value with
      | .error e, _ => .error e
      | .ok (), .error e => .error (.theme e)
      | .ok (), .ok theme =>
        (host.render syntaxFile header.schemePath theme content).map (body host · theme) := by
  simp only [withRendered, value_withView_always, value_bind_always, value_now, Hosts.always_apply]
  cases host.assign syntaxFile with
  | error e => rfl
  | ok =>
    simp only [value_bind_always, loadTheme_always]
    cases (host.loadTheme header.schemePath).value with
    | error e => rfl
    | ok theme =>
      simp only [value_bind_always, value_now, Hosts.always_apply]
      cases host.render syntaxFile header.schemePath theme content <;> rfl

theorem value_withRendered_always {α : Type} (header : Header) (syntaxFile content : Text)
    (body : Host → View → Theme → α) :
    ((withRendered header syntaxFile content body).on (.always host)).value =
      (host.withRendered header syntaxFile content (body host)).value :=
  (value_withRendered header syntaxFile content body).trans
    (value_withRendered header syntaxFile content fun _ => body host).symm

theorem value_withFixture_always {α : Type} (fixture content : Text)
    (body : Host → Header → View → Theme → α) :
    ((withFixture fixture content body).on (.always host)).value =
      (host.withFixture fixture content (body host)).value := by
  rw [Host.withFixture, withFixture, withFixture]
  cases Header.read? content with
  | none => rfl
  | some header =>
    simp only [value_bind_always]
    cases ((resolveSyntax (header.syntaxFor fixture)).on (.always host)).value with
    | error e => rfl
    | ok syntaxFile =>
      dsimp only
      rw [value_withRendered_always, value_withRendered_always]

end Changing

namespace Host
open Changing (resolveSyntax_always loadTheme_always value_withRendered_always)

def NothingFound (host : Host) (name : Text) (suffixes : List Text) : Prop :=
  ∀ suffix ∈ suffixes, host.find (name ++ suffix) = []

def FirstFound (host : Host) (name : Text) (suffixes found : List Text) : Prop :=
  ∃ before suffix after, suffixes = before ++ suffix :: after ∧ host.NothingFound name before ∧
    host.find (name ++ suffix) = found ∧ found ≠ []

theorem FirstFound.here {host : Host} {name suffix : Text} {suffixes found : List Text}
    (h : host.find (name ++ suffix) = found) (ne : found ≠ []) :
    host.FirstFound name (suffix :: suffixes) found :=
  ⟨[], suffix, suffixes, rfl, by simp [NothingFound], h, ne⟩

theorem nothingFound_or_firstFound (host : Host) (name : Text) (suffixes : List Text) :
    host.NothingFound name suffixes ∨ ∃ found, host.FirstFound name suffixes found := by
  induction suffixes with
  | nil => simp [NothingFound]
  | cons suffix suffixes ih =>
    by_cases here : host.find (name ++ suffix) = []
    · rcases ih with nothing | ⟨found, before, s, after, rfl, nothing, hfound⟩
      · exact .inl (by simpa [NothingFound, here] using nothing)
      · refine .inr ⟨found, suffix :: before, s, after, rfl, ?_, hfound⟩
        simpa [NothingFound, here] using nothing
    · exact .inr ⟨_, .here rfl here⟩

def onlyFound : List Text → Except FixtureError Text
  | [file] => .ok file
  | found => .error (.ambiguousSyntax found)

theorem value_resolveSyntaxAmong_cons (host : Host) (name suffix : Text) (suffixes : List Text) :
    (host.resolveSyntaxAmong name (suffix :: suffixes)).value =
      match host.find (name ++ suffix) with
      | [] => (host.resolveSyntaxAmong name suffixes).value
      | found => onlyFound found := by
  rw [resolveSyntaxAmong, Changing.resolveSyntaxAmong, Changing.value_bind_always, Changing.value_find]
  dsimp only [Hosts.always_apply]
  match host.find (name ++ suffix) with
  | [] => rfl
  | [_] => rfl
  | _ :: _ :: _ => rfl

theorem resolveSyntaxAmong_nothing {host : Host} {name : Text} {suffixes : List Text}
    (h : host.NothingFound name suffixes) :
    (host.resolveSyntaxAmong name suffixes).value = .error (.syntaxNotFound name) := by
  induction suffixes with
  | nil => rfl
  | cons suffix suffixes ih =>
    have here := h suffix List.mem_cons_self
    have later := ih fun s m => h s (List.mem_cons_of_mem _ m)
    rw [value_resolveSyntaxAmong_cons, here, later]

theorem onlyFound_several {found : List Text} (h : 1 < found.length) :
    onlyFound found = .error (.ambiguousSyntax found) := by
  cases found with
  | nil => simp at h
  | cons file others =>
    cases others with
    | nil => simp at h
    | cons other others => rfl

theorem resolveSyntaxAmong_found {host : Host} {name : Text} {suffixes found : List Text}
    (h : host.FirstFound name suffixes found) :
    (host.resolveSyntaxAmong name suffixes).value = onlyFound found := by
  obtain ⟨before, suffix, after, rfl, nothing, rfl, ne⟩ := h
  induction before with
  | nil =>
    rw [List.nil_append, value_resolveSyntaxAmong_cons]
    match hfound : host.find (name ++ suffix) with
    | [] => exact absurd hfound ne
    | file :: others => rfl
  | cons s before ih =>
    have here := nothing s List.mem_cons_self
    have later := ih fun s m => nothing s (List.mem_cons_of_mem _ m)
    rw [List.cons_append, value_resolveSyntaxAmong_cons, here, later]

theorem resolveSyntax_nothing {host : Host} {name : Text}
    (h : host.NothingFound name Resource.syntaxSuffixes) :
    (host.resolveSyntax name).value = .error (.syntaxNotFound name) := resolveSyntaxAmong_nothing h

theorem resolveSyntax_found {host : Host} {name : Text} {found : List Text}
    (h : host.FirstFound name Resource.syntaxSuffixes found) :
    (host.resolveSyntax name).value = onlyFound found := resolveSyntaxAmong_found h

theorem loadTheme_value (host : Host) (name : Text) :
    (host.loadTheme name).value =
      match host.load (schemePath name (host.find name)) with
      | .error e => .error (.resource e)
      | .ok content => Theme.ofDocument (schemePath name (host.find name)) content := by
  simp only [loadTheme, Changing.loadTheme, Changing.value_bind_always, Changing.value_find,
    Changing.value_load, Hosts.always_apply]
  cases host.load (schemePath name (host.find name)) <;> rfl

structure Opens (host : Host) (test content : Text) (header : Header) : Prop where
  load : host.load test = .ok content
  read : Header.read? content = some header

/-- The fixture allows to leave it out without its syntax, and no search finds that. -/
structure LeavesOut (host : Host) (test content : Text) (header : Header) : Prop
    extends Opens host test content header where
  skip : header.skipIfMissing = true
  nothing : host.NothingFound (header.syntaxFor test) Resource.syntaxSuffixes

/-- The content has this header, and the first search that finds its syntax finds this one alone. -/
structure Resolves (host : Host) (test content : Text) (header : Header) (syntaxFile : Text) :
    Prop where
  read : Header.read? content = some header
  found : host.FirstFound (header.syntaxFor test) Resource.syntaxSuffixes [syntaxFile]

/-- A view takes the syntax, the color scheme can be loaded, and the view takes the content. -/
structure Rendering (host : Host) (test content : Text) (header : Header) (syntaxFile : Text)
    (theme : Theme) (view : View) : Prop extends Resolves host test content header syntaxFile where
  assign : host.assign syntaxFile = .ok ()
  theme_eq : (host.loadTheme header.schemePath).value = .ok theme
  render : host.render syntaxFile header.schemePath theme content = .ok view

structure Renders (host : Host) (test content : Text) (header : Header) (syntaxFile : Text)
    (theme : Theme) (view : View) : Prop
    extends Rendering host test content header syntaxFile theme view where
  load : host.load test = .ok content

/-- What stops a fixture, in the order of its run. -/
inductive Stops (host : Host) (test : Text) : FixtureError → Prop where
  | unreadable {e : ResourceError} : host.load test = .error e → Stops host test (.resource e)
  | invalidHeader {content : Text} : host.load test = .ok content →
      Header.read? content = none → Stops host test .invalidHeader
  | syntaxMissing {content : Text} {header : Header} : host.Opens test content header →
      header.skipIfMissing = false →
      host.NothingFound (header.syntaxFor test) Resource.syntaxSuffixes →
      Stops host test (.syntaxNotFound (header.syntaxFor test))
  | ambiguous {content : Text} {header : Header} {found : List Text} :
      host.Opens test content header →
      host.FirstFound (header.syntaxFor test) Resource.syntaxSuffixes found → 1 < found.length →
      Stops host test (.ambiguousSyntax found)
  | unassigned {content syntaxFile : Text} {header : Header} {e : FixtureError} :
      host.load test = .ok content → host.Resolves test content header syntaxFile →
      host.assign syntaxFile = .error e → Stops host test e
  | themeless {content syntaxFile : Text} {header : Header} {e : ThemeError} :
      host.load test = .ok content → host.Resolves test content header syntaxFile →
      host.assign syntaxFile = .ok () →
      (host.loadTheme header.schemePath).value = .error e → Stops host test (.theme e)
  | unrendered {content syntaxFile : Text} {header : Header} {theme : Theme} {e : FixtureError} :
      host.load test = .ok content → host.Resolves test content header syntaxFile →
      host.assign syntaxFile = .ok () →
      (host.loadTheme header.schemePath).value = .ok theme →
      host.render syntaxFile header.schemePath theme content = .error e → Stops host test e

theorem stops_or_leavesOut_or_renders (host : Host) (test : Text) :
    (∃ e, host.Stops test e) ∨ (∃ content header, host.LeavesOut test content header) ∨
      ∃ content header syntaxFile theme view,
        host.Renders test content header syntaxFile theme view := by
  cases hload : host.load test with
  | error e => exact .inl ⟨_, .unreadable hload⟩
  | ok content =>
    cases hread : Header.read? content with
    | none => exact .inl ⟨_, .invalidHeader hload hread⟩
    | some header =>
      have opens : host.Opens test content header := ⟨hload, hread⟩
      rcases host.nothingFound_or_firstFound (header.syntaxFor test) Resource.syntaxSuffixes with
        nothing | ⟨found, hfound⟩
      · cases hskip : header.skipIfMissing with
        | true => exact .inr (.inl ⟨content, header, opens, hskip, nothing⟩)
        | false => exact .inl ⟨_, .syntaxMissing opens hskip nothing⟩
      · match found, hfound with
        | [], ⟨_, _, _, _, _, _, ne⟩ => exact absurd rfl ne
        | _ :: _ :: _, hfound => exact .inl ⟨_, .ambiguous opens hfound (by simp)⟩
        | [syntaxFile], hfound =>
          have resolves : host.Resolves test content header syntaxFile := ⟨hread, hfound⟩
          cases hassign : host.assign syntaxFile with
          | error e => exact .inl ⟨_, .unassigned hload resolves hassign⟩
          | ok =>
            cases htheme : (host.loadTheme header.schemePath).value with
            | error e => exact .inl ⟨_, .themeless hload resolves hassign htheme⟩
            | ok theme =>
              cases hrender : host.render syntaxFile header.schemePath theme content with
              | error e => exact .inl ⟨_, .unrendered hload resolves hassign htheme hrender⟩
              | ok view =>
                exact .inr (.inr ⟨content, header, syntaxFile, theme, view,
                  ⟨resolves, hassign, htheme, hrender⟩, hload⟩)

theorem Resolves.value_resolveSyntax {host : Host} {test content syntaxFile : Text} {header : Header}
    (h : host.Resolves test content header syntaxFile) :
    (host.resolveSyntax (header.syntaxFor test)).value = .ok syntaxFile :=
  resolveSyntax_found h.found

theorem Rendering.value_withRendered {α : Type} {host : Host} {test content syntaxFile : Text}
    {header : Header} {theme : Theme} {view : View}
    (h : host.Rendering test content header syntaxFile theme view) (body : View → Theme → α) :
    (host.withRendered header syntaxFile content body).value = .ok (body view theme) := by
  rw [withRendered, Changing.value_withRendered, h.assign, h.theme_eq]
  dsimp only
  rw [h.render, Except.map]

theorem Resolves.value_withFixture {α : Type} {host : Host} {test content syntaxFile : Text}
    {header : Header} (h : host.Resolves test content header syntaxFile)
    (body : Header → View → Theme → α) :
    (host.withFixture test content body).value =
      (host.withRendered header syntaxFile content (body header)).value := by
  simp [withFixture, Changing.withFixture, resolveSyntax_always, value_withRendered_always, h.read,
    h.value_resolveSyntax]

theorem Rendering.value_withFixture {α : Type} {host : Host} {test content syntaxFile : Text}
    {header : Header} {theme : Theme} {view : View}
    (h : host.Rendering test content header syntaxFile theme view)
    (body : Header → View → Theme → α) :
    (host.withFixture test content body).value = .ok (body header view theme) := by
  rw [h.toResolves.value_withFixture, h.value_withRendered]

theorem Resolves.value_runFixture {host : Host} {test content syntaxFile : Text} {header : Header}
    (h : host.Resolves test content header syntaxFile) (hload : host.load test = .ok content) :
    (host.runFixture test).value =
      match (host.withRendered header syntaxFile content
        (FixtureRun.evaluate host (host.fileName test) syntaxFile header content)).value with
      | .error e => .stopped (host.fileName test) e
      | .ok run => run := by
  simp only [runFixture, Changing.runFixture, Changing.value_bind_always, Changing.value_now,
    Changing.value_load, Hosts.always_apply, hload, h.read, resolveSyntax_always, value_withRendered_always,
    h.value_resolveSyntax]
  split <;> simp_all

theorem runFixture_of_stops {host : Host} {test : Text} {e : FixtureError} (h : host.Stops test e) :
    (host.runFixture test).value = .stopped (host.fileName test) e := by
  cases h with
  | unreadable hload => simp [runFixture, Changing.runFixture, hload]
  | invalidHeader hload hread => simp [runFixture, Changing.runFixture, hload, hread]
  | syntaxMissing opens hskip nothing =>
    have missing := resolveSyntax_nothing nothing
    simp [runFixture, Changing.runFixture, resolveSyntax_always, opens.load, opens.read, missing, hskip]
  | ambiguous opens hfound several =>
    have resolved := resolveSyntax_found hfound
    rw [onlyFound_several several] at resolved
    simp [runFixture, Changing.runFixture, resolveSyntax_always, opens.load, opens.read, resolved]
  | unassigned hload resolves hassign =>
    simp [resolves.value_runFixture hload, withRendered, Changing.value_withRendered, hassign]
  | themeless hload resolves hassign htheme =>
    simp [resolves.value_runFixture hload, withRendered, Changing.value_withRendered, hassign, htheme]
  | unrendered hload resolves hassign htheme hrender =>
    simp [resolves.value_runFixture hload, withRendered, Changing.value_withRendered, hassign, htheme,
      hrender, Except.map]

theorem LeavesOut.value_runFixture {host : Host} {test content : Text} {header : Header}
    (h : host.LeavesOut test content header) :
    (host.runFixture test).value =
      .leftOut (host.fileName test) header (header.syntaxFor test)
        (.syntaxNotFound (header.syntaxFor test)) := by
  have missing := resolveSyntax_nothing h.nothing
  simp [runFixture, Changing.runFixture, resolveSyntax_always, h.load, h.read, missing, h.skip]

theorem Renders.value_runFixture {host : Host} {test content syntaxFile : Text} {header : Header}
    {theme : Theme} {view : View} (h : host.Renders test content header syntaxFile theme view) :
    (host.runFixture test).value =
      .evaluate host (host.fileName test) syntaxFile header content view theme := by
  simp [h.toResolves.value_runFixture h.load, h.value_withRendered]

theorem status_evaluate (host : Host) (file syntaxFile content : Text) (header : Header) (view : View)
    (theme : Theme) :
    (FixtureRun.evaluate host file syntaxFile header content view theme).status = .passed ∨
      (FixtureRun.evaluate host file syntaxFile header content view theme).status = .failed := by
  simp only [FixtureRun.evaluate]
  split
  · exact .inl rfl
  · exact .inr rfl

/-- A fixture is left out, stopped or evaluated as the answers of the host say, and its run tells
what there is to tell of that and nothing else. -/
theorem runFixture_outcome (host : Host) (test : Text) :
    ((host.runFixture test).value.status = .skipped ↔
      ∃ content header, host.LeavesOut test content header) ∧
    ((host.runFixture test).value.status = .error ↔ ∃ e, host.Stops test e) ∧
    ((host.runFixture test).value.status = .passed ∨
        (host.runFixture test).value.status = .failed ↔
      ∃ content header syntaxFile theme view,
        host.Renders test content header syntaxFile theme view) ∧
    (∀ e, host.Stops test e → (host.runFixture test).value =
      { status := .error
        assertionCount := 0
        failures := []
        notice := some ⟨e.message, host.fileName test, 0, 0⟩
        colorScheme := none
        syntaxFile := none }) ∧
    (∀ content header, host.LeavesOut test content header → (host.runFixture test).value =
      { status := .skipped
        assertionCount := 0
        failures := []
        notice := some ⟨(FixtureError.syntaxNotFound (header.syntaxFor test)).message,
          host.fileName test, 0, 0⟩
        colorScheme := some (Resource.normalizeScheme header.colorScheme)
        syntaxFile := some (header.syntaxFor test) }) ∧
    (∀ content header syntaxFile theme view,
      host.Renders test content header syntaxFile theme view →
        (host.runFixture test).value.notice = none ∧
        (host.runFixture test).value.colorScheme = some header.schemePath ∧
        (host.runFixture test).value.syntaxFile = some syntaxFile) := by
  have stopped : ∀ e, host.Stops test e → (host.runFixture test).value.status = .error :=
    fun e h => by rw [runFixture_of_stops h]; rfl
  have leftOut : ∀ content header, host.LeavesOut test content header →
      (host.runFixture test).value.status = .skipped :=
    fun content header h => by rw [h.value_runFixture]; rfl
  have evaluated : ∀ content header syntaxFile theme view,
      host.Renders test content header syntaxFile theme view →
        (host.runFixture test).value.status = .passed ∨
          (host.runFixture test).value.status = .failed :=
    fun content header syntaxFile theme view h => by
      rw [h.value_runFixture]
      exact status_evaluate ..
  refine ⟨⟨fun h => ?_, fun ⟨_, _, hl⟩ => leftOut _ _ hl⟩, ⟨fun h => ?_, fun ⟨e, he⟩ => stopped e he⟩,
    ⟨fun h => ?_, fun ⟨_, _, _, _, _, hr⟩ => evaluated _ _ _ _ _ hr⟩,
    fun e he => runFixture_of_stops he, fun _ _ hl => hl.value_runFixture,
    fun _ _ _ _ _ hr => by rw [hr.value_runFixture]; exact ⟨rfl, rfl, rfl⟩⟩
  · rcases host.stops_or_leavesOut_or_renders test with ⟨e, he⟩ | hl | ⟨_, _, _, _, _, hr⟩
    · simp [stopped e he] at h
    · exact hl
    · simpa [h] using evaluated _ _ _ _ _ hr
  · rcases host.stops_or_leavesOut_or_renders test with he | ⟨_, _, hl⟩ | ⟨_, _, _, _, _, hr⟩
    · exact he
    · simp [leftOut _ _ hl] at h
    · simpa [h] using evaluated _ _ _ _ _ hr
  · rcases host.stops_or_leavesOut_or_renders test with ⟨e, he⟩ | ⟨_, _, hl⟩ | hr
    · simp [stopped e he] at h
    · simp [leftOut _ _ hl] at h
    · exact hr

end Host
end SchemeCheck
