import SchemeCheck.Caret.Position
import SchemeCheck.Suite.Run
set_option autoImplicit false

/-!
The calls that a suite makes, on hosts that may answer differently every time and whatever of it fails.
Views are opened one at a time and closed before anything else begins, and a fixture asks for its
resources in one fixed order, which the header and the answers alone cut short.
-/

namespace SchemeCheck

def HostCall.isView : HostCall → Bool
  | openView | closeView => true
  | find _ | load _ => false

/-- At no time more than one view is open, none is closed that is not open, and all are closed in the
end. -/
structure ViewsInTurn (calls : List HostCall) : Prop where
  open_le_one : ∀ n, (calls.take n).count .closeView ≤ (calls.take n).count .openView ∧
    (calls.take n).count .openView ≤ (calls.take n).count .closeView + 1
  closed : calls.count .closeView = calls.count .openView

theorem count_of_not_isView {calls : List HostCall} (h : ∀ c ∈ calls, c.isView = false)
    {c : HostCall} (hc : c.isView = true) : calls.count c = 0 := by
  refine List.count_eq_zero.2 fun member => ?_
  rw [h c member] at hc
  cases hc

namespace ViewsInTurn
variable {calls rest : List HostCall}

theorem of_not_isView (h : ∀ c ∈ calls, c.isView = false) : ViewsInTurn calls where
  open_le_one n := by
    have part : ∀ c ∈ calls.take n, c.isView = false := fun c hc => h c (List.mem_of_mem_take hc)
    rw [count_of_not_isView part rfl, count_of_not_isView part rfl]
    omega
  closed := by rw [count_of_not_isView h rfl, count_of_not_isView h rfl]

theorem append (h : ViewsInTurn calls) (h' : ViewsInTurn rest) : ViewsInTurn (calls ++ rest) where
  open_le_one n := by
    have first := h.open_le_one n
    have second := h'.open_le_one (n - calls.length)
    rw [List.take_append, List.count_append, List.count_append]
    rcases Nat.le_total n calls.length with inside | past
    · rw [Nat.sub_eq_zero_of_le inside, List.take_zero]
      simpa using first
    · have closed := h.closed
      rw [List.take_of_length_le past]
      omega
  closed := by rw [List.count_append, List.count_append, h.closed, h'.closed]

theorem bracket (h : ∀ c ∈ calls, c.isView = false) :
    ViewsInTurn (.openView :: (calls ++ [.closeView])) where
  open_le_one n := by
    cases n with
    | zero => simp
    | succ n =>
      have part := (List.take_sublist n (calls ++ [HostCall.closeView])).count_le
      have opened := part .openView
      have closed := part .closeView
      rw [List.count_append, count_of_not_isView h rfl] at opened closed
      simp only [List.take_succ_cons, List.count_cons, List.count_nil] at opened closed ⊢
      simp at opened closed ⊢
      omega
  closed := by
    have opened := count_of_not_isView h (c := .openView) rfl
    have closed := count_of_not_isView h (c := .closeView) rfl
    simp [opened, closed]

end ViewsInTurn

namespace Hosts

def searches (name : Text) : Hosts → (suffixes : List Text) → List HostCall
  | _, [] => []
  | hosts, suffix :: suffixes =>
    .find (name ++ suffix) ::
      if (hosts 0).find (name ++ suffix) = [] then searches name (hosts.after 1) suffixes else []

def firstFound (name : Text) : Hosts → (suffixes : List Text) → List Text
  | _, [] => []
  | hosts, suffix :: suffixes =>
    match (hosts 0).find (name ++ suffix) with
    | [] => firstFound name (hosts.after 1) suffixes
    | found => found

def schemePath (hosts : Hosts) (moment : Nat) (name : Text) : Text :=
  Host.schemePath name ((hosts moment).find name)

/-- All that rendering a fixture with a header may ask for: its syntax, and its color scheme once by
name and once by path. -/
def plan (hosts : Hosts) (fixture : Text) (header : Header) : List HostCall :=
  let searches := searches (header.syntaxFor fixture) hosts Resource.syntaxSuffixes
  searches ++
    [.find header.schemePath, .load (hosts.schemePath (searches.length + 1) header.schemePath)]

def viewCalls (hosts : Hosts) (header : Header) (syntaxFile : Text) : List HostCall :=
  .openView ::
    ((match (hosts 1).assign syntaxFile with
      | .error _ => []
      | .ok () => [.find header.schemePath, .load (hosts.schemePath 1 header.schemePath)]) ++
    [.closeView])

def renderCalls (hosts : Hosts) (fixture : Text) : Option Header → List HostCall
  | none => []
  | some header =>
    let searches := searches (header.syntaxFor fixture) hosts Resource.syntaxSuffixes
    searches ++
      match firstFound (header.syntaxFor fixture) hosts Resource.syntaxSuffixes with
      | [syntaxFile] => (hosts.after searches.length).viewCalls header syntaxFile
      | _ => []

def headerOf? (hosts : Hosts) (fixture : Text) : Option Header :=
  ((hosts 0).load fixture).toOption.bind Header.read?

end Hosts

namespace Changing
variable {α : Type}

theorem calls_resolveSyntaxAmong (hosts : Hosts) (name : Text) (suffixes : List Text) :
    ((resolveSyntaxAmong name suffixes).on hosts).calls = Hosts.searches name hosts suffixes := by
  induction suffixes generalizing hosts with
  | nil => rfl
  | cons suffix suffixes ih =>
    have later := ih (hosts.after 1)
    rw [resolveSyntaxAmong, calls_find_bind, Hosts.searches]
    match (hosts 0).find (name ++ suffix) with
    | [] => simp only [later, if_true]
    | [_] => rfl
    | _ :: _ :: _ => rfl

theorem value_resolveSyntaxAmong (hosts : Hosts) (name : Text) (suffixes : List Text) :
    ((resolveSyntaxAmong name suffixes).on hosts).value =
      match Hosts.firstFound name hosts suffixes with
      | [] => .error (.syntaxNotFound name)
      | [found] => .ok found
      | found => .error (.ambiguousSyntax found) := by
  induction suffixes generalizing hosts with
  | nil => rfl
  | cons suffix suffixes ih =>
    have later := ih (hosts.after 1)
    rw [resolveSyntaxAmong, value_find_bind, Hosts.firstFound]
    match (hosts 0).find (name ++ suffix) with
    | [] => exact later
    | [_] => rfl
    | _ :: _ :: _ => rfl

theorem calls_loadTheme (hosts : Hosts) (name : Text) :
    ((loadTheme name).on hosts).calls = [.find name, .load (hosts.schemePath 0 name)] := by
  rw [loadTheme, calls_find_bind, calls_load_bind]
  cases ((hosts.after 1) 0).load (Host.schemePath name ((hosts 0).find name)) <;> rfl

theorem calls_withRendered (hosts : Hosts) (header : Header) (syntaxFile content : Text)
    (body : Host → View → Theme → α) :
    ((withRendered header syntaxFile content body).on hosts).calls =
      hosts.viewCalls header syntaxFile := by
  rw [withRendered, calls_withView, on_now_bind, Hosts.viewCalls]
  simp only [Hosts.after_apply, Nat.add_zero]
  cases (hosts 1).assign syntaxFile with
  | error e => rfl
  | ok =>
    dsimp only
    rw [calls_bind, calls_loadTheme]
    -- Nothing that is asked after the color scheme is a call.
    cases ((loadTheme header.schemePath).on (hosts.after 1)).value with
    | error e => rfl
    | ok theme =>
      simp only [on_now_bind]
      split <;> rfl

theorem calls_resolveSyntax_bind {fixture : Text} {header : Header}
    {next : Except FixtureError Text → Changing α}
    (stopped : ∀ e hosts, ((next (.error e)).on hosts).calls = [])
    (rendered : ∀ syntaxFile hosts,
      ((next (.ok syntaxFile)).on hosts).calls = hosts.viewCalls header syntaxFile)
    (hosts : Hosts) : ((resolveSyntax (header.syntaxFor fixture) >>= next).on hosts).calls =
      hosts.renderCalls fixture (some header) := by
  rw [Hosts.renderCalls, calls_bind, resolveSyntax, calls_resolveSyntaxAmong,
    value_resolveSyntaxAmong]
  rcases Hosts.firstFound (header.syntaxFor fixture) hosts Resource.syntaxSuffixes with
    _ | ⟨found, _ | ⟨other, others⟩⟩
  · simp only [stopped]
  · simp only [rendered]
  · simp only [stopped]

theorem calls_withFixture (hosts : Hosts) (fixture content : Text)
    (body : Host → Header → View → Theme → α) :
    ((withFixture fixture content body).on hosts).calls =
      hosts.renderCalls fixture (Header.read? content) := by
  rw [withFixture]
  cases Header.read? content with
  | none => rfl
  | some header =>
    exact calls_resolveSyntax_bind (fun _ _ => rfl) (fun _ _ => calls_withRendered ..) hosts

theorem calls_runFixture (hosts : Hosts) (test : Text) :
    ((runFixture test).on hosts).calls =
      .load test :: (hosts.after 1).renderCalls test (hosts.headerOf? test) := by
  rw [runFixture, on_now_bind, calls_load_bind, Hosts.headerOf?]
  cases (hosts 0).load test with
  | error e => rfl
  | ok content =>
    dsimp only [Except.toOption, Option.bind]
    cases Header.read? content with
    | none => rfl
    | some header =>
      refine congrArg _ (calls_resolveSyntax_bind (fun e hosts => ?_) (fun syntaxFile hosts => ?_) _)
      · split
        · split <;> rfl
        · rfl
        · contradiction
      · dsimp only
        rw [calls_bind, calls_withRendered]
        split <;> simp

end Changing

/-! ## What the calls keep to -/

namespace Hosts

theorem not_isView_of_mem_searches {hosts : Hosts} {name : Text} {suffixes : List Text} {c : HostCall}
    (h : c ∈ searches name hosts suffixes) : c.isView = false := by
  induction suffixes generalizing hosts with
  | nil => cases h
  | cons suffix suffixes ih =>
    rw [searches] at h
    rcases List.mem_cons.1 h with rfl | later
    · rfl
    · split at later
      · exact ih later
      · cases later

theorem viewCalls_eq (hosts : Hosts) (header : Header) (syntaxFile : Text) :
    ∃ calls, hosts.viewCalls header syntaxFile = .openView :: (calls ++ [.closeView]) ∧
      (∀ c ∈ calls, c.isView = false) ∧
      calls <+: [.find header.schemePath, .load (hosts.schemePath 1 header.schemePath)] := by
  rw [viewCalls]
  cases (hosts 1).assign syntaxFile with
  | error e => exact ⟨[], rfl, by simp, List.nil_prefix⟩
  | ok => exact ⟨_, rfl, by simp [HostCall.isView], List.prefix_refl _⟩

theorem renderCalls_of_one {hosts : Hosts} {fixture syntaxFile : Text} {header : Header}
    (h : firstFound (header.syntaxFor fixture) hosts Resource.syntaxSuffixes = [syntaxFile]) :
    let searches := searches (header.syntaxFor fixture) hosts Resource.syntaxSuffixes
    hosts.renderCalls fixture (some header) =
      searches ++ (hosts.after searches.length).viewCalls header syntaxFile := by
  rw [renderCalls, h]

theorem renderCalls_of_not_one {hosts : Hosts} {fixture : Text} {header : Header}
    (h : ∀ syntaxFile,
      firstFound (header.syntaxFor fixture) hosts Resource.syntaxSuffixes ≠ [syntaxFile]) :
    hosts.renderCalls fixture (some header) =
      searches (header.syntaxFor fixture) hosts Resource.syntaxSuffixes := by
  rw [renderCalls]
  match hfound : firstFound (header.syntaxFor fixture) hosts Resource.syntaxSuffixes with
  | [] => exact List.append_nil _
  | [syntaxFile] => exact absurd hfound (h syntaxFile)
  | _ :: _ :: _ => exact List.append_nil _

end Hosts

theorem filter_of_not_isView {calls : List HostCall} (h : ∀ c ∈ calls, c.isView = false) :
    calls.filter (!·.isView) = calls :=
  List.filter_eq_self.2 fun c hc => by rw [h c hc, Bool.not_false]

/-- What the calls of rendering a text keep to, given its header if it has one. -/
structure RenderCalls (hosts : Hosts) (fixture : Text) (header? : Option Header)
    (calls : List HostCall) : Prop where
  opens_iff : .openView ∈ calls ↔ ∃ header syntaxFile, header? = some header ∧
    Hosts.firstFound (header.syntaxFor fixture) hosts Resource.syntaxSuffixes = [syntaxFile]
  opens_once : calls.count .openView ≤ 1
  inTurn : ViewsInTurn calls
  /-- The calls for resources are the plan up to where it ends. -/
  resources : calls.filter (!·.isView) <+: (header?.map (hosts.plan fixture)).getD []
  determined : calls = hosts.renderCalls fixture header?

namespace Hosts
variable {hosts : Hosts} {fixture : Text} {header : Header}

theorem renderCalls_keep_of_not_one (h : ∀ syntaxFile,
    firstFound (header.syntaxFor fixture) hosts Resource.syntaxSuffixes ≠ [syntaxFile]) :
    RenderCalls hosts fixture (some header) (hosts.renderCalls fixture (some header)) := by
  have quiet : ∀ c ∈ hosts.renderCalls fixture (some header), c.isView = false := by
    rw [renderCalls_of_not_one h]
    exact fun c => not_isView_of_mem_searches
  have unopened := count_of_not_isView quiet (c := .openView) rfl
  refine ⟨?_, by omega, .of_not_isView quiet, ?_, rfl⟩
  · rw [← List.count_pos_iff, unopened]
    refine iff_of_false (by omega) ?_
    rintro ⟨header', syntaxFile, same, found⟩
    obtain rfl := Option.some.inj same
    exact h syntaxFile found
  · rw [filter_of_not_isView quiet, renderCalls_of_not_one h]
    exact List.prefix_append _ _

theorem renderCalls_keep_of_one {syntaxFile : Text}
    (h : firstFound (header.syntaxFor fixture) hosts Resource.syntaxSuffixes = [syntaxFile]) :
    RenderCalls hosts fixture (some header) (hosts.renderCalls fixture (some header)) := by
  have quiet : ∀ c ∈ searches (header.syntaxFor fixture) hosts Resource.syntaxSuffixes,
      c.isView = false := fun c => not_isView_of_mem_searches
  obtain ⟨inner, viewed, calm, planned⟩ := viewCalls_eq (hosts.after
    (searches (header.syntaxFor fixture) hosts Resource.syntaxSuffixes).length) header syntaxFile
  have calls := renderCalls_of_one h
  dsimp only at calls
  rw [viewed] at calls
  refine ⟨?_, ?_, ?_, ?_, rfl⟩ <;> rw [calls]
  · exact iff_of_true (by simp) ⟨header, syntaxFile, rfl, h⟩
  · have before := count_of_not_isView quiet (c := .openView) rfl
    have within := count_of_not_isView calm (c := .openView) rfl
    simp [before, within]
  · exact .append (.of_not_isView quiet) (.bracket calm)
  · have resources : (HostCall.openView :: (inner ++ [.closeView])).filter (!·.isView) = inner := by
      have closing : [HostCall.closeView].filter (!·.isView) = [] := rfl
      rw [List.filter_cons_of_neg (by decide), List.filter_append, filter_of_not_isView calm, closing,
        List.append_nil]
    rw [List.filter_append, filter_of_not_isView quiet, resources]
    exact (List.prefix_append_right_inj _).2 planned

theorem renderCalls_keep (hosts : Hosts) (fixture : Text) (header? : Option Header) :
    RenderCalls hosts fixture header? (hosts.renderCalls fixture header?) := by
  cases header? with
  | none =>
    have none : hosts.renderCalls fixture none = [] := rfl
    rw [none]
    exact ⟨by simp, by simp, .of_not_isView (by simp), List.nil_prefix, rfl⟩
  | some header =>
    by_cases one : ∃ syntaxFile,
        firstFound (header.syntaxFor fixture) hosts Resource.syntaxSuffixes = [syntaxFile]
    · obtain ⟨syntaxFile, found⟩ := one
      exact renderCalls_keep_of_one found
    · exact renderCalls_keep_of_not_one fun syntaxFile found => one ⟨syntaxFile, found⟩

end Hosts

def FixtureCalls (hosts : Hosts) (test : Text) (calls : List HostCall) : Prop :=
  ∃ rendering, calls = .load test :: rendering ∧
    RenderCalls (hosts.after 1) test (hosts.headerOf? test) rendering

theorem FixtureCalls.inTurn {hosts : Hosts} {test : Text} {calls : List HostCall}
    (h : FixtureCalls hosts test calls) : ViewsInTurn calls := by
  obtain ⟨rendering, rfl, keeps⟩ := h
  have load : ViewsInTurn [.load test] := .of_not_isView (by simp [HostCall.isView])
  exact load.append keeps.inTurn

/-- The calls of some fixtures, each of which begins where those of the one before it end. -/
inductive FixturesInTurn : Hosts → List Text → List (List HostCall) → Prop where
  | nil (hosts : Hosts) : FixturesInTurn hosts [] []
  | cons {hosts : Hosts} {test : Text} {tests : List Text} {calls : List HostCall}
      {rest : List (List HostCall)} : FixtureCalls hosts test calls →
      FixturesInTurn (hosts.after calls.length) tests rest →
      FixturesInTurn hosts (test :: tests) (calls :: rest)

theorem FixturesInTurn.inTurn {hosts : Hosts} {tests : List Text} {parts : List (List HostCall)}
    (h : FixturesInTurn hosts tests parts) : ViewsInTurn parts.flatten := by
  induction h with
  | nil hosts => exact .of_not_isView (by simp)
  | cons fixture _ ih => exact fixture.inTurn.append ih

namespace Changing

theorem fixtureCalls_runFixture (hosts : Hosts) (test : Text) :
    FixtureCalls hosts test ((runFixture test).on hosts).calls :=
  ⟨_, calls_runFixture hosts test, (hosts.after 1).renderCalls_keep test (hosts.headerOf? test)⟩

theorem fixturesInTurn_runAll (hosts : Hosts) (s : SuiteState) (tests : List Text) :
    ∃ fixtures, ((runAll s tests).on hosts).calls = fixtures.flatten ∧
      FixturesInTurn hosts tests fixtures := by
  induction tests generalizing hosts s with
  | nil => exact ⟨[], rfl, .nil hosts⟩
  | cons test tests ih =>
    rw [runAll, calls_bind]
    obtain ⟨fixtures, calls, inTurn⟩ := ih
      (hosts.after ((runFixture test).on hosts).calls.length)
      (s.record test ((runFixture test).on hosts).value)
    exact ⟨_ :: fixtures, by rw [calls, List.flatten_cons],
      .cons (fixtureCalls_runFixture hosts test) inTurn⟩

theorem not_isView_reportsOn (hosts : Hosts) (entries : List (Text × TextSet)) :
    ∀ c ∈ ((reportsOn entries).on hosts).calls, c.isView = false := by
  induction entries generalizing hosts with
  | nil => simp [reportsOn]
  | cons entry entries ih =>
    intro c hc
    rw [reportsOn, calls_bind, calls_loadTheme, calls_bind] at hc
    simp only [List.mem_append] at hc
    rcases hc with theme | reports | none
    · simp only [List.mem_cons, List.not_mem_nil, or_false] at theme
      rcases theme with rfl | rfl <;> rfl
    · exact ih _ c reports
    · split at none <;> simp at none

theorem not_isView_covered (hosts : Hosts) (s : SuiteState) :
    ∀ c ∈ ((covered s).on hosts).calls, c.isView = false := by
  rw [covered, finish]
  split
  · split
    · rw [calls_bind]
      simpa using not_isView_reportsOn hosts s.coverage.tested.entries
    · simp
  · simp

theorem calls_runSuite (suite : Suite) (options : RunOptions) (hosts : Hosts) :
    ∃ fixtures coverage, ((runSuite suite options).on hosts).calls = fixtures.flatten ++ coverage ∧
      FixturesInTurn hosts suite.tests fixtures ∧ ∀ c ∈ coverage, c.isView = false := by
  obtain ⟨fixtures, calls, inTurn⟩ :=
    fixturesInTurn_runAll hosts (suite.begin (hosts 0) options) suite.tests
  rw [runSuite, on_now_bind, calls_bind, calls_bind, calls_pure, List.append_nil, calls]
  exact ⟨fixtures, _, rfl, inTurn, not_isView_covered _ _⟩

end Changing

/-- Whatever a host answers and however it changes, a run of a suite has at most one view open; every
fixture opens one just if it has a header and one syntax, closes it, and asks for resources in the order
of its plan; and coverage opens none. The helpers for writing fixtures do as a fixture does once it is
loaded. -/
theorem Suite.hostCalls_inTurn (suite : Suite) (options : RunOptions) :
    (∀ host : Host, (Changing.runSuite suite options).on (.always host) = suite.run host options) ∧
    (∀ hosts : Hosts,
      ViewsInTurn ((Changing.runSuite suite options).on hosts).calls ∧
      ∃ fixtures coverage,
        ((Changing.runSuite suite options).on hosts).calls = fixtures.flatten ++ coverage ∧
        FixturesInTurn hosts suite.tests fixtures ∧ ∀ c ∈ coverage, c.isView = false) ∧
    ∀ (test content : Text) (row column : Nat),
      (∀ host : Host, (Changing.generateAssertions test content row).on (.always host) =
          host.generateAssertions test content row ∧
        (Changing.inspectScope test content row column).on (.always host) =
          host.inspectScope test content row column) ∧
      ∀ hosts : Hosts,
        RenderCalls hosts test (Header.read? content)
          ((Changing.generateAssertions test content row).on hosts).calls ∧
        RenderCalls hosts test (Header.read? content)
          ((Changing.inspectScope test content row column).on hosts).calls := by
  refine ⟨fun host => rfl, fun hosts => ?_, fun test content row column =>
    ⟨fun host => ⟨rfl, rfl⟩, fun hosts => ?_⟩⟩
  · obtain ⟨fixtures, coverage, calls, inTurn, quiet⟩ :=
      Changing.calls_runSuite suite options hosts
    refine ⟨?_, fixtures, coverage, calls, inTurn, quiet⟩
    rw [calls]
    exact inTurn.inTurn.append (.of_not_isView quiet)
  · have keep := hosts.renderCalls_keep test (Header.read? content)
    rw [Changing.generateAssertions, Changing.inspectScope, Changing.calls_withFixture,
      Changing.calls_withFixture]
    exact ⟨keep, keep⟩

end SchemeCheck
