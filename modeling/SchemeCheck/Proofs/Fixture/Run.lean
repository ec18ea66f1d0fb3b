import Mathlib.Algebra.GroupWithZero.Nat
import SchemeCheck.Host.Memory
import SchemeCheck.Proofs.Fixture.Outcome
import SchemeCheck.Proofs.Theme.Resolver
set_option autoImplicit false

namespace SchemeCheck

namespace Expectation

/-- Some stated attribute has another value than the style, read in lower case. -/
def Misses (expected : Expectation) (style : Style) : Prop :=
  ∃ k v, expected.get? k = some v ∧ Text.lower (style.getD k.key) ≠ v

theorem ext_get? {e e' : Expectation} (h : ∀ k, e.get? k = e'.get? k) : e = e' := by
  cases e
  cases e'
  have foreground := h .foreground
  have background := h .background
  have fontStyle := h .fontStyle
  simp only [get?] at foreground background fontStyle
  rw [foreground, background, fontStyle]

theorem get?_actual (expected : Expectation) (style : Style) (k : Attribute) :
    (expected.actual style).get? k = (expected.get? k).map fun _ => Text.lower (style.getD k.key) :=
  get?_withValues expected _ k

theorem actual_ne_iff (expected : Expectation) (style : Style) :
    expected.actual style ≠ expected ↔ expected.Misses style := by
  constructor
  · refine fun ne => Classical.byContradiction fun none => ne (ext_get? fun k => ?_)
    rw [get?_actual]
    cases hv : expected.get? k with
    | none => rfl
    | some v =>
      rw [Option.map_some, Option.some_inj]
      exact Classical.byContradiction fun differs => none ⟨k, v, hv, differs⟩
  · rintro ⟨k, v, hv, differs⟩ same
    have value := get?_actual expected style k
    rw [same, hv, Option.map_some, Option.some_inj] at value
    exact differs value.symm

instance (expected : Expectation) (style : Style) : Decidable (expected.Misses style) :=
  decidable_of_iff _ (actual_ne_iff expected style)

end Expectation

namespace Assertion

def failingColumns (view : View) (score : Scorer) (theme : Theme) (a : Assertion) : List Nat :=
  (List.range' a.colBegin (a.colEnd - a.colBegin)).filter fun column =>
    a.expected.Misses (theme.styleAt view score a.row column)

def report (file : Text) (a : Assertion) (column : Nat) (style : Style) : Failure where
  assertion := a.rawText
  file := file
  row := a.row + 1
  column := column + 1
  actual := a.expected.withValues fun k => Text.lower (style.getD k.key)
  expected := a.expected

def failures (file : Text) (view : View) (score : Scorer) (theme : Theme) (a : Assertion) :
    List Failure :=
  (a.failingColumns view score theme).map fun column =>
    a.report file column (theme.styleAt view score a.row column)

end Assertion

theorem failure?_eq (file : Text) (a : Assertion) (column : Nat) (style : Style) :
    failure? file a column style =
      if a.expected.Misses style then some (a.report file column style) else none := by
  by_cases h : a.expected.Misses style
  · rw [if_pos h, failure?, if_neg ((Expectation.actual_ne_iff _ _).2 h)]
    rfl
  · rw [if_neg h, failure?, if_pos (Classical.not_not.1 (mt (Expectation.actual_ne_iff _ _).1 h))]

/-- Each column is reported or not by itself, whatever the resolver met before. -/
theorem failuresFrom_eq {view : View} {score : Scorer} (file : Text) {r : Resolver}
    (h : r.Faithful view score) (columns : List (Assertion × Nat)) :
    failuresFrom view score file r columns =
      columns.filterMap fun c => failure? file c.1 c.2 (r.theme.styleAt view score c.1.row c.2) := by
  induction columns generalizing r with
  | nil => rfl
  | cons c columns ih =>
    obtain ⟨a, column⟩ := c
    have tail := ih (h.next_atPoint (view.textPoint a.row column))
    simp only [failuresFrom, h.style_atPoint, tail, Resolver.theme_next_atPoint, List.filterMap_cons]
    cases failure? file a column (r.theme.styleAt view score a.row column) <;> rfl

theorem failuresFrom_checks (view : View) (score : Scorer) (theme : Theme) (file : Text)
    (build : Nat) (assertions : List Assertion) :
    failuresFrom view score file (Resolver.new theme) (checks build assertions) =
      (assertions.filter (·.appliesTo build)).flatMap (·.failures file view score theme) := by
  have fresh : (Resolver.new theme).theme = theme := rfl
  rw [failuresFrom_eq file (Resolver.faithful_new theme), fresh, checks, List.filterMap_flatMap]
  congr 1
  funext a
  rw [List.filterMap_map, Assertion.failures, Assertion.failingColumns, ← List.filterMap_eq_map,
    List.filterMap_filter]
  congr 1
  funext column
  simp only [Function.comp_apply, failure?_eq, decide_eq_true_eq]

theorem length_checks (build : Nat) (assertions : List Assertion) :
    (checks build assertions).length =
      ((assertions.filter (·.appliesTo build)).map fun a => a.colEnd - a.colBegin).sum := by
  simp [checks, List.length_flatMap]

namespace Host

theorem Renders.failures_eq {host : Host} {test content syntaxFile : Text} {header : Header}
    {theme : Theme} {view : View} (h : host.Renders test content header syntaxFile theme view) :
    (host.runFixture test).value.failures =
      ((Assertion.ofDocument content).filter (·.appliesTo host.build)).flatMap
        (·.failures (host.fileName test) view host.score theme) := by
  rw [h.value_runFixture]
  exact failuresFrom_checks ..

/-- A rendered fixture counts the columns of the assertions for the build of the host and reports
those of them that fail, each once, in the order of the document. -/
theorem runFixture_failures {host : Host} {test content syntaxFile : Text} {header : Header}
    {theme : Theme} {view : View} (h : host.Renders test content header syntaxFile theme view) :
    (host.runFixture test).value.assertionCount =
      (((Assertion.ofDocument content).filter (·.appliesTo host.build)).map fun a =>
        a.colEnd - a.colBegin).sum ∧
    (host.runFixture test).value.failures =
      ((Assertion.ofDocument content).filter (·.appliesTo host.build)).flatMap
        (·.failures (host.fileName test) view host.score theme) ∧
    (∀ f ∈ (host.runFixture test).value.failures, ∀ k,
      (f.actual.get? k).isSome = (f.expected.get? k).isSome) ∧
    (host.runFixture test).value.status =
      if (host.runFixture test).value.failures = [] then .passed else .failed := by
  have failures := h.failures_eq
  refine ⟨?_, failures, fun f hf k => ?_, ?_⟩
  · rw [h.value_runFixture]
    exact length_checks ..
  · rw [failures] at hf
    obtain ⟨a, -, hf⟩ := List.mem_flatMap.1 hf
    obtain ⟨column, -, rfl⟩ := List.mem_map.1 hf
    rw [Assertion.report, Expectation.get?_withValues, Option.isSome_map]
  · rw [h.value_runFixture]
    rfl

end Host

namespace Sample

def fixture : Text := ['t']

def syntaxFile : Text := "X.sublime-syntax".toList

def scheme : Text := "a.hidden-color-scheme".toList

def schemeText : Text := "[null, \x7b\"foreground\": \"#FFF\"\x7d]".toList

def theme : ModernTheme :=
  ⟨none, Dict.empty.insert "foreground".toList "#FFF".toList, Dict.empty, []⟩

def header : Header := ⟨scheme, some ['X'], false, some .slashes⟩

def memory (content : Text) : MemoryHost where
  files := ((Dict.empty.insert fixture content).insert syntaxFile []).insert scheme schemeText
  build := 4200
  platform := []
  root := []
  placed := []
  defaultScope := ['s']
  score := fun _ _ => Score.zero
  unsupported := []
  renderError := none

theorem find_memory {content pattern : Text} {found : List Text}
    (h : [syntaxFile, scheme, fixture].filter (fun p => Glob.isMatch pattern (Resource.baseName p)) =
      found) : (memory content).toHost.find pattern = found := h

theorem loadTheme_memory (content : Text) :
    ((memory content).toHost.loadTheme header.schemePath).value = .ok (.modern theme) := by
  have found : (memory content).toHost.find header.schemePath = [scheme] :=
    find_memory (by decide +kernel)
  have loaded : (memory content).toHost.load scheme = .ok schemeText := rfl
  have modern : Resource.isModern scheme = true := by decide +kernel
  have read : ModernTheme.read? schemeText = some theme := by decide +kernel
  rw [Host.loadTheme_value, found]
  simp only [Host.schemePath, loaded, Theme.ofDocument, modern, read, if_true]

theorem rendering (loaded : Text) {content : Text} (h : Header.read? content = some header) :
    (memory loaded).toHost.Rendering fixture content header syntaxFile (.modern theme)
      ((memory loaded).view (.modern theme)) where
  read := h
  found := .here (find_memory (by decide +kernel)) (by simp)
  assign := rfl
  theme_eq := loadTheme_memory loaded
  render := rfl

theorem renders {content : Text} (h : Header.read? content = some header) :
    (memory content).toHost.Renders fixture content header syntaxFile (.modern theme)
      ((memory content).view (.modern theme)) where
  toRendering := rendering content h
  load := rfl

def content : Text :=
  "// COLOR SCHEME TEST \"a.hidden-color-scheme\" \"X\"
ab
// ^ fg=#fff
// ^ fg=#000
// ^ fg=#000 build>=5000".toList

end Sample

theorem Host.runFixture_failures_sample :
    Header.read? Sample.content = some Sample.header ∧
      ((Sample.memory Sample.content).toHost.runFixture Sample.fixture).value.assertionCount = 2 ∧
      ((Sample.memory Sample.content).toHost.runFixture Sample.fixture).value.failures.map
        (fun f => (f.row, f.column)) = [(2, 4)] := by
  have read : Header.read? Sample.content = some Sample.header := by decide +kernel
  have h := Host.runFixture_failures (Sample.renders read)
  refine ⟨read, h.1.trans (by decide +kernel), ?_⟩
  rw [h.2.1]
  decide +kernel

end SchemeCheck
