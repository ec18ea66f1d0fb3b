import SchemeCheck.Proofs.Theme.HostStyle
import SchemeCheck.Proofs.Theme.History
set_option autoImplicit false

/-!
What a resolver reports with a theme of either generation. With a modern theme an attribute has the
value of the topmost rule that sets it, or else the global one, without references to variables; with
a legacy theme the resolver reports what a view of that theme would, and what it would report with
the same rules in a modern theme.
-/

namespace SchemeCheck

namespace Variable

/-- A value that references to variables and trimming leave alone. -/
structure Plain (value : Text) : Prop where
  trim_eq : Text.trim value = value
  noReference : Text.startsWith "var(".toList value = false

theorem Plain.resolve {value : Text} (h : Plain value) (vars : Style) : resolve vars value = value := by
  have start : Text.after? "var(".toList value = none :=
    Option.not_isSome_iff_eq_none.1 (by simpa [Text.startsWith] using h.noReference)
  have stays : follow? vars value = none := by rw [follow?, reference?, start]; rfl
  rw [Variable.resolve, h.trim_eq, maxHops, followUpTo, stays]

end Variable

theorem LegacyTheme.get?_accumulate_origin {t : LegacyTheme} {score : Scorer} {path key value : Text}
    (h : (accumulate score path t.scopedRules t.defaultStyle).get? key = some value) :
    ∃ rule ∈ t.rules, rule.style.get? key = some value := by
  rcases SchemeCheck.get?_accumulate_origin h with ⟨rule, hrule, hvalue⟩ | hvalue
  · exact ⟨rule, (List.mem_filter.1 hrule).1, hvalue⟩
  · rcases Style.get?_merge_origin hvalue with ⟨style, hstyle, hvalue⟩ | absent
    · obtain ⟨rule, hrule, rfl⟩ := List.mem_map.1 hstyle
      exact ⟨rule, (List.mem_filter.1 hrule).1, hvalue⟩
    · rw [Dict.get?_empty] at absent
      contradiction

namespace Resolver

theorem style_of_reports {t : ModernTheme} {score : Scorer} {history : List Moment} {m : Moment}
    (h : ∀ e ∈ history ++ [m], e.view.Reports score (.modern t)) :
    (((new (.modern t)).after history).answerTo m).style =
      ((Theme.modern t).layered score m.path).toStyle :=
  style_answerTo_of_same fun e he same => by rw [Moment.uncached, (h e he).resolve, same]

theorem get?_of_reports {t : ModernTheme} {score : Scorer} {history : List Moment} {m : Moment}
    (h : ∀ e ∈ history ++ [m], e.view.Reports score (.modern t)) {key : Text}
    (hkey : key ∉ HostStyle.fontKeys) :
    (((new (.modern t)).after history).answerTo m).style.get? key =
      ((accumulate score m.path t.rules t.globals).get? key).map (Variable.resolve t.vars) := by
  have other : key ≠ "fontStyle".toList := fun same => hkey (same ▸ by decide)
  rw [style_of_reports h, HostStyle.get?_toStyle, if_neg other, Theme.get?_layered_modern t _ _ hkey]

/-- With a modern theme, in views that report its styles, each attribute has the value of the topmost
rule that sets it, or else of the globals. -/
theorem style_modern {t : ModernTheme} {score : Scorer} {history : List Moment} {m : Moment}
    (h : ∀ e ∈ history ++ [m], e.view.Reports score (.modern t)) :
    let style := (((new (.modern t)).after history).answerTo m).style
    (∀ key ∉ HostStyle.fontKeys,
      (∀ value, Rule.Topmost score m.path key t.rules value →
        style.get? key = some (Variable.resolve t.vars value)) ∧
      (Rule.Unset score m.path key t.rules →
        style.get? key = (t.globals.get? key).map (Variable.resolve t.vars)) ∧
      ((∃ value, Rule.Topmost score m.path key t.rules value) ∨ Rule.Unset score m.path key t.rules) ∧
      (style.get? key = none ↔ Rule.Unset score m.path key t.rules ∧ t.globals.get? key = none) ∧
      (style.get? key = none → style.getD key = [])) ∧
    style.get? "font_style".toList = none ∧
    ∃ words ∈ HostStyle.fontStyles, style.get? "fontStyle".toList = some words := by
  intro style
  have reported : style = ((Theme.modern t).layered score m.path).toStyle := style_of_reports h
  refine ⟨fun key hkey => ?_, ?_, ((Theme.modern t).layered score m.path).fontStyle,
    HostStyle.fontStyle_mem _, ?_⟩
  · have value_eq := get?_of_reports h hkey
    have topmost : ∀ value, Rule.Topmost score m.path key t.rules value →
        style.get? key = some (Variable.resolve t.vars value) := fun value top => by
      rw [value_eq, get?_accumulate_of_topmost top, Option.map_some]
    have unset : Rule.Unset score m.path key t.rules →
        style.get? key = (t.globals.get? key).map (Variable.resolve t.vars) := fun noRule => by
      rw [value_eq, get?_accumulate_of_unset noRule]
    have ways := Rule.topmost_or_unset score m.path key t.rules
    refine ⟨topmost, unset, ways, ⟨fun absent => ?_, fun ⟨noRule, noGlobal⟩ => ?_⟩, fun absent => ?_⟩
    · rcases ways with ⟨value, top⟩ | noRule
      · rw [topmost value top] at absent
        contradiction
      · rw [unset noRule, Option.map_eq_none_iff] at absent
        exact ⟨noRule, absent⟩
    · rw [unset noRule, noGlobal, Option.map_none]
    · rw [Style.getD, absent, Option.getD_none]
  · rw [reported, HostStyle.get?_toStyle, if_neg (by decide), Theme.layered, HostStyle.get?_overlay,
      Theme.viewStyle, Theme.scopeStyle, HostStyle.get?_ofStyle, HostStyle.get?_ofStyle,
      if_pos (by decide), if_pos (by decide), Option.none_or]
  · rw [reported, HostStyle.get?_toStyle, if_pos rfl]

end Resolver

namespace Sample

def foreground : Text := "foreground".toList

def rule (selector value : Text) : Rule := ⟨some selector, Dict.empty.insert foreground value⟩

def rules : List Rule :=
  [rule ['c'] "#111".toList, rule ['c'] "var(x)".toList, rule ['d'] "#222".toList,
    rule ['e'] "#333".toList]

def modernTheme : ModernTheme where
  name := none
  globals := (Dict.empty.insert foreground "#FFF".toList).insert "background".toList "#0F0".toList
  vars := Dict.empty.insert ['x'] "#000".toList
  rules := rules

def scorer : Scorer := fun _ selector =>
  if selector = ['c'] then ⟨2⟩ else if selector = ['d'] then ⟨1⟩ else .zero

def reportingView (theme : Theme) : View :=
  ⟨fun _ _ => 0, fun _ => [], theme.viewStyle, theme.scopeStyle scorer⟩

theorem reports_reportingView (theme : Theme) : (reportingView theme).Reports scorer theme :=
  ⟨rfl, fun _ => rfl⟩

/-- A request for the path `s c`, while nothing matches for the resolver itself. -/
def request (theme : Theme) : Moment :=
  ⟨reportingView theme, fun _ _ => .zero, .scope " s c".toList⟩

theorem topmost_rules (path : Text) :
    Rule.Topmost scorer path foreground rules "var(x)".toList := by
  refine ⟨[rule ['c'] "#111".toList], rule ['c'] "var(x)".toList,
    [rule ['d'] "#222".toList, rule ['e'] "#333".toList], ⟨2⟩, rfl,
    ⟨⟨['c'], rfl, rfl⟩, by decide, by decide +kernel⟩, ?_, ?_⟩
  · simp only [List.mem_singleton, forall_eq]
    intro s v h
    obtain ⟨_, hselector, rfl⟩ := h.scored
    cases hselector
    exact UInt64.le_refl 2
  · simp only [List.mem_cons, List.not_mem_nil, or_false, forall_eq_or_imp, forall_eq]
    refine ⟨fun s v h => ?_, fun s v h => ?_⟩
    · obtain ⟨_, hselector, rfl⟩ := h.scored
      cases hselector
      exact show (1 : UInt64) < 2 by decide
    · obtain ⟨_, hselector, rfl⟩ := h.scored
      cases hselector
      exact show (0 : UInt64) < 2 by decide

end Sample

theorem Resolver.style_modern_sample :
    (∀ e ∈ [Sample.request (.modern Sample.modernTheme)] ++
        [Sample.request (.modern Sample.modernTheme)],
      e.view.Reports Sample.scorer (.modern Sample.modernTheme)) ∧
    (((new (.modern Sample.modernTheme)).after [Sample.request (.modern Sample.modernTheme)]).answerTo
      (Sample.request (.modern Sample.modernTheme))).style.get? Sample.foreground =
        some "#000".toList := by
  have reports : ∀ e ∈ [Sample.request (.modern Sample.modernTheme)] ++
      [Sample.request (.modern Sample.modernTheme)],
      e.view.Reports Sample.scorer (.modern Sample.modernTheme) := by
    intro e he
    have here : e = Sample.request (.modern Sample.modernTheme) := by simpa using he
    rw [here]
    exact Sample.reports_reportingView _
  obtain ⟨topmost, -⟩ := (style_modern reports).1 Sample.foreground (by decide)
  refine ⟨reports, (topmost _ (Sample.topmost_rules _)).trans (by decide +kernel)⟩

namespace Resolver

/-- With a legacy theme the resolver reports what a view of the theme has under and in the scope,
and what it reports with a modern theme of the same defaults and rules. -/
theorem style_legacy {t : LegacyTheme} {score : Scorer} {history : List Moment} {m : Moment}
    (h : ∀ e ∈ history ++ [m], e.score = score) {key : Text} (hkey : key ∉ HostStyle.fontKeys) :
    (((new (.legacy t)).after history).answerTo m).style.get? key =
        ((Theme.legacy t).viewStyle.overlay
          ((Theme.legacy t).scopeStyle score m.path)).attributes.get? key ∧
      ((∀ rule ∈ t.rules, ∀ k v, rule.style.get? k = some v → Variable.Plain v) →
        ∀ (name : Option Text) (vars : Style) (history' : List Moment) (m' : Moment),
          m'.path = m.path →
          (∀ e ∈ history' ++ [m'],
            e.view.Reports score (.modern ⟨name, t.defaultStyle, vars, t.scopedRules⟩)) →
          (((new (.modern ⟨name, t.defaultStyle, vars, t.scopedRules⟩)).after history').answerTo
              m').style.get? key =
            (((new (.legacy t)).after history).answerTo m).style.get? key) := by
  have direct : (((new (.legacy t)).after history).answerTo m).style =
      accumulate score m.path t.scopedRules t.defaultStyle :=
    style_answerTo_of_same fun e he same => by rw [Moment.uncached, Theme.resolve, h e he, same]
  refine ⟨?_, fun plain name vars history' m' same reports => ?_⟩
  · rw [direct]
    exact (Theme.get?_layered_legacy t score m.path hkey).symm
  · rw [direct, get?_of_reports reports hkey, same]
    cases hvalue : (accumulate score m.path t.scopedRules t.defaultStyle).get? key with
    | none => rfl
    | some value =>
      obtain ⟨rule, hrule, origin⟩ := LegacyTheme.get?_accumulate_origin hvalue
      rw [Option.map_some, (plain rule hrule key value origin).resolve]

end Resolver

namespace Sample

def legacyTheme : LegacyTheme where
  name := none
  rules := [rule ['e'] "#222".toList, ⟨none, Dict.empty.insert foreground "#FFF".toList⟩,
    rule ['c'] "#111".toList]

def legacyMoment : Moment := ⟨reportingView (.legacy legacyTheme), scorer, .scope " s c".toList⟩

def modernized : ModernTheme := ⟨none, legacyTheme.defaultStyle, Dict.empty, legacyTheme.scopedRules⟩

theorem plain_insert {value : Text} (h : Variable.Plain value) (k v : Text)
    (hv : (Dict.empty.insert foreground value).get? k = some v) : Variable.Plain v := by
  rw [Dict.get?_insert] at hv
  split at hv
  · exact Option.some.inj hv ▸ h
  · simp at hv

theorem plain_legacyTheme :
    ∀ r ∈ legacyTheme.rules, ∀ k v, r.style.get? k = some v → Variable.Plain v := by
  simp only [legacyTheme, List.mem_cons, List.not_mem_nil, or_false, forall_eq_or_imp, forall_eq]
  refine ⟨plain_insert ?_, plain_insert ?_, plain_insert ?_⟩ <;>
    exact ⟨by decide +kernel, by decide +kernel⟩

end Sample

theorem Resolver.style_legacy_sample :
    (∀ e ∈ [] ++ [Sample.legacyMoment], e.score = Sample.scorer) ∧
    (∀ r ∈ Sample.legacyTheme.rules, ∀ k v, r.style.get? k = some v → Variable.Plain v) ∧
    (((new (.modern Sample.modernized)).after []).answerTo
      (Sample.request (.modern Sample.modernized))).style.get? Sample.foreground =
        some "#111".toList := by
  have same : ∀ e ∈ [] ++ [Sample.legacyMoment], e.score = Sample.scorer := by
    simp [Sample.legacyMoment]
  have notFont : Sample.foreground ∉ HostStyle.fontKeys := by decide
  obtain ⟨-, agree⟩ := style_legacy (t := Sample.legacyTheme) same notFont
  refine ⟨same, Sample.plain_legacyTheme,
    (agree Sample.plain_legacyTheme none Dict.empty [] (Sample.request _) rfl ?_).trans ?_⟩
  · intro e he
    rw [List.mem_singleton.1 he]
    exact Sample.reports_reportingView _
  · decide +kernel

end SchemeCheck
