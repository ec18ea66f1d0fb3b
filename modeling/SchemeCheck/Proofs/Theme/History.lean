import Mathlib.Data.List.Forall2
import SchemeCheck.Proofs.Theme.Asking
set_option autoImplicit false

namespace SchemeCheck

structure Moment where
  view : View
  score : Scorer
  request : Request

namespace Moment

def scopePath (m : Moment) : Text :=
  match m.request with
  | .scope scopePath => scopePath
  | .point point => m.view.scopeName point

def path (m : Moment) : Text := Text.trim m.scopePath

def naming (m : Moment) : List Query :=
  match m.request with
  | .scope _ => []
  | .point point => [.scopeName point]

def uncached (m : Moment) (theme : Theme) : Style := theme.resolve m.view m.score m.path

end Moment

/-- What resolving a path takes: of a legacy theme the score of each rule with a selector once, of a
modern one the two styles of the view. -/
def Theme.Consults (path : Text) (questions : List Query) : Theme → Prop
  | legacy t =>
    List.Forall₂ (fun (rule : Rule) q =>
      ∃ selector, rule.selector = some selector ∧ q = .score path selector) t.scopedRules questions
  | modern _ => questions = [.style, .styleForScope path]

theorem LegacyTheme.exists_selector {t : LegacyTheme} {rule : Rule} (h : rule ∈ t.scopedRules) :
    ∃ selector, rule.selector = some selector := by
  have notDefault := (List.mem_filter.1 h).2
  cases hselector : rule.selector with
  | none => simp [Rule.isDefault, hselector] at notDefault
  | some selector => exact ⟨selector, rfl⟩

theorem Rule.forall₂_scores (path : Text) {rules : List Rule}
    (h : ∀ rule ∈ rules, ∃ selector, rule.selector = some selector) :
    List.Forall₂ (fun (rule : Rule) q =>
      ∃ selector, rule.selector = some selector ∧ q = Query.score path selector) rules
      ((rules.filterMap (·.selector)).map (.score path)) := by
  induction rules with
  | nil => exact .nil
  | cons rule rules ih =>
    obtain ⟨selector, hselector⟩ := h rule List.mem_cons_self
    rw [List.filterMap_cons, hselector]
    exact .cons ⟨selector, hselector, rfl⟩ (ih fun r hr => h r (List.mem_cons_of_mem _ hr))

theorem Theme.consults_queries (path : Text) (theme : Theme) :
    theme.Consults path (theme.queries path) := by
  cases theme with
  | legacy t => exact Rule.forall₂_scores path fun _ => LegacyTheme.exists_selector
  | modern t => rfl

namespace Resolver

def answerTo (r : Resolver) (m : Moment) : Answer := r.answer m.view m.score m.request

def after (r : Resolver) (history : List Moment) : Resolver :=
  history.foldl (fun r m => (r.answerTo m).next) r

theorem answerTo_eq (r : Resolver) (m : Moment) :
    r.answerTo m =
      { r.atScope m.view m.score m.scopePath with
        queries := m.naming ++ (r.atScope m.view m.score m.scopePath).queries } := by
  simp only [answerTo, Moment.scopePath, Moment.naming]
  cases m.request <;> rfl

def firstWith (path : Text) (history : List Moment) : Option Moment :=
  history.find? fun m => m.path = path

@[simp] theorem firstWith_nil (path : Text) : firstWith path [] = none := rfl

theorem firstWith_eq_none {path : Text} {history : List Moment}
    (h : ∀ e ∈ history, e.path ≠ path) : firstWith path history = none :=
  List.find?_eq_none.2 fun e he => by simpa using h e he

theorem firstWith_append (path : Text) (earlier later : List Moment) :
    firstWith path (earlier ++ later) = (firstWith path earlier).or (firstWith path later) :=
  List.find?_append

theorem firstWith_cons (path : Text) (m : Moment) (later : List Moment) :
    firstWith path (m :: later) = if m.path = path then some m else firstWith path later := by
  by_cases same : m.path = path <;> simp [firstWith, same]

theorem exists_firstWith (earlier : List Moment) (m : Moment) :
    ∃ first, firstWith m.path (earlier ++ [m]) = some first := by
  rw [firstWith_append, firstWith_cons, if_pos rfl]
  cases firstWith m.path earlier <;> exact ⟨_, rfl⟩

structure Remembers (theme : Theme) (history : List Moment) (r : Resolver) : Prop where
  theme_eq : r.theme = theme
  known : ∀ path, r.known.lookup path = (firstWith path history).map (·.uncached theme)

theorem remembers_new (theme : Theme) : Remembers theme [] (new theme) := ⟨rfl, fun _ => rfl⟩

section
variable {theme : Theme} {history : List Moment} {r : Resolver} {m : Moment}

theorem Remembers.answerTo_known (h : Remembers theme history r) {first : Moment}
    (known : firstWith m.path history = some first) :
    r.answerTo m = ⟨first.uncached theme, r, m.naming⟩ := by
  have recalled := h.known m.path
  rw [known] at recalled
  rw [answerTo_eq, atScope_known recalled, List.append_nil]

theorem Remembers.answerTo_fresh (h : Remembers theme history r)
    (fresh : firstWith m.path history = none) :
    r.answerTo m =
      ⟨m.uncached theme, { r with known := (m.path, m.uncached theme) :: r.known },
        m.naming ++ theme.queries m.path⟩ := by
  have forgotten := h.known m.path
  rw [fresh] at forgotten
  rw [answerTo_eq, atScope_fresh forgotten, h.theme_eq]
  rfl

theorem Remembers.next (h : Remembers theme history r) (m : Moment) :
    Remembers theme (history ++ [m]) (r.answerTo m).next := by
  cases known : firstWith m.path history with
  | some first =>
    -- Nothing is remembered, and the first request for no path changes.
    rw [h.answerTo_known known]
    refine ⟨h.theme_eq, fun path => ?_⟩
    rw [h.known, firstWith_append, firstWith_cons]
    by_cases same : m.path = path
    · rw [← same, known, Option.some_or]
    · rw [if_neg same, firstWith_nil, Option.or_none]
  | none =>
    rw [h.answerTo_fresh known]
    refine ⟨h.theme_eq, fun path => ?_⟩
    rw [firstWith_append, firstWith_cons, Dict.lookup_entry, h.known]
    by_cases same : m.path = path
    · rw [if_pos same.symm, if_pos same, ← same, known, Option.none_or, Option.map_some]
    · rw [if_neg (Ne.symm same), if_neg same, firstWith_nil, Option.or_none]

theorem Remembers.after (h : Remembers theme history r) (later : List Moment) :
    Remembers theme (history ++ later) (r.after later) := by
  induction later generalizing history r with
  | nil => rwa [List.append_nil]
  | cons m later ih =>
    rw [List.append_cons]
    exact ih (h.next m)

theorem remembers_after (theme : Theme) (history : List Moment) :
    Remembers theme history ((new theme).after history) := (remembers_new theme).after history

theorem style_answerTo_after {path : Text} {first : Moment} (hpath : m.path = path)
    (hfirst : firstWith path (history ++ [m]) = some first) :
    (((new theme).after history).answerTo m).style = first.uncached theme := by
  have h := remembers_after theme history
  subst hpath
  rw [firstWith_append, firstWith_cons, if_pos rfl] at hfirst
  cases known : firstWith m.path history with
  | some e =>
    rw [known, Option.some_or, Option.some_inj] at hfirst
    rw [h.answerTo_known known, hfirst]
  | none =>
    rw [known, Option.none_or, Option.some_inj] at hfirst
    rw [h.answerTo_fresh known, hfirst]

theorem style_answerTo_of_same {style : Style}
    (h : ∀ e ∈ history ++ [m], e.path = m.path → e.uncached theme = style) :
    (((new theme).after history).answerTo m).style = style := by
  obtain ⟨first, hfirst⟩ := exists_firstWith history m
  rw [style_answerTo_after rfl hfirst]
  have here : first.path = m.path := by simpa using List.find?_some hfirst
  exact h first (List.mem_of_find?_eq_some hfirst) here

end

/-- Whatever a resolver was asked before and however its view and its scorer changed, a path that is
asked for the first time is resolved as they are now, and one that was asked for keeps its style
without another question. -/
theorem answerTo_after (theme : Theme) (history : List Moment) (m : Moment) :
    let r := (new theme).after history
    ((r.asking m.request).value m.view m.score = ((r.answerTo m).style, (r.answerTo m).next) ∧
      (r.asking m.request).questions m.view m.score = (r.answerTo m).queries) ∧
    ((∀ e ∈ history, e.path ≠ m.path) →
      (r.answerTo m).style = m.uncached theme ∧
      ∃ questions, theme.Consults m.path questions ∧
        (r.answerTo m).queries = m.naming ++ questions) ∧
    (∀ earlier first later, history = earlier ++ first :: later → first.path = m.path →
      (∀ e ∈ earlier, e.path ≠ m.path) →
        (r.answerTo m).style = first.uncached theme ∧ (r.answerTo m).queries = m.naming) ∧
    (∀ (between : List Moment) (m' : Moment), m'.path = m.path →
      (((new theme).after (history ++ m :: between)).answerTo m').style = (r.answerTo m).style) := by
  intro r
  have h : Remembers theme history r := remembers_after theme history
  refine ⟨run_asking .., fun fresh => ?_, ?_, fun between m' same => ?_⟩
  · rw [h.answerTo_fresh (firstWith_eq_none fresh)]
    exact ⟨rfl, _, theme.consults_queries m.path, rfl⟩
  · rintro earlier first later rfl here notBefore
    have known : firstWith m.path (earlier ++ first :: later) = some first := by
      rw [firstWith_append, firstWith_eq_none notBefore, firstWith_cons, if_pos here, Option.none_or]
    rw [h.answerTo_known known]
    exact ⟨rfl, rfl⟩
  · obtain ⟨first, hfirst⟩ := exists_firstWith history m
    have still : firstWith m.path (history ++ m :: between ++ [m']) = some first := by
      rw [List.append_assoc, List.cons_append, List.append_cons, firstWith_append, hfirst,
        Option.some_or]
    rw [style_answerTo_after same still, style_answerTo_after rfl hfirst]

-- The rule stops matching after the first request, and blanks surround the path in the second.
example :
    let rule : Rule := ⟨some ['c'], Dict.empty.insert ['k'] ['v']⟩
    let view : View := ⟨fun _ _ => 0, fun _ => [], .empty, fun _ => .empty⟩
    let r := (new (.legacy ⟨none, [rule]⟩)).after [⟨view, fun _ _ => ⟨1⟩, .scope ['c']⟩]
    (r.answerTo ⟨view, fun _ _ => .zero, .scope " c ".toList⟩).style.get? ['k'] = some ['v'] := by
  decide +kernel

end Resolver
end SchemeCheck
