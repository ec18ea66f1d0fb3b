import SchemeCheck.Proofs.Theme.Generations
import SchemeCheck.Proofs.Theme.Ranking
set_option autoImplicit false

/-!
The font style that a resolver reports with a modern theme. A flag is on or absent and never off, so
the rule that ranks highest cannot take back what the globals turn on: a flag is reported where the
rule or the globals name it, and the rule alone decides where the globals name none that it lacks.
-/

namespace SchemeCheck

namespace HostStyle

def modernKey : Text := "font_style".toList

def legacyKey : Text := "fontStyle".toList

theorem get?_toStyle_legacyKey (s : HostStyle) : s.toStyle.get? legacyKey = some s.fontStyle :=
  (get?_toStyle s legacyKey).trans (if_pos rfl)

def flagWords : List Text := [boldWord, italicWord]

theorem mem_words_fontStyle (s : HostStyle) :
    (boldWord ∈ Text.words s.fontStyle ↔ s.bold = some true) ∧
      (italicWord ∈ Text.words s.fontStyle ↔ s.italic = some true) := by
  have both : boldWord ∈ Text.words (boldWord ++ ' ' :: italicWord) ∧
      italicWord ∈ Text.words (boldWord ++ ' ' :: italicWord) := by decide
  have one : italicWord ∉ Text.words boldWord ∧ boldWord ∉ Text.words italicWord := by decide
  have self : boldWord ∈ Text.words boldWord ∧ italicWord ∈ Text.words italicWord := by decide
  have none : ∀ word, word ∉ Text.words [] := by simp [Text.words, Text.fields, Text.split]
  unfold fontStyle
  by_cases bold : s.bold = some true
  · by_cases italic : s.italic = some true
    · simpa [bold, italic] using both
    · simpa [bold, italic] using And.intro self.1 one.1
  · by_cases italic : s.italic = some true
    · simpa [bold, italic] using And.intro one.2 self.2
    · simpa [bold, italic] using And.intro (none boldWord) (none italicWord)

theorem flag_overlay_iff (word : Text) (base upper : Style) :
    (flag word upper <|> flag word base) = some true ↔ word ∈ fontWords upper ∨ word ∈ fontWords base := by
  unfold flag
  by_cases above : word ∈ fontWords upper
  · simp [above]
  · by_cases below : word ∈ fontWords base
    · simp [above, below]
    · simp [above, below]

theorem mem_words_overlay {word : Text} (h : word ∈ flagWords) (base upper : Style) :
    word ∈ Text.words ((ofStyle base).overlay (ofStyle upper)).fontStyle ↔
      word ∈ fontWords upper ∨ word ∈ fontWords base := by
  obtain ⟨bold, italic⟩ := mem_words_fontStyle ((ofStyle base).overlay (ofStyle upper))
  simp only [flagWords, List.mem_cons, List.not_mem_nil, or_false] at h
  rcases h with rfl | rfl
  · rw [bold, overlay, ofStyle, ofStyle, flag_overlay_iff]
  · rw [italic, overlay, ofStyle, ofStyle, flag_overlay_iff]

theorem mem_fontWords_iff {s : Style} (h : s.get? legacyKey = none) (word : Text) :
    word ∈ fontWords s ↔ ∃ value, s.get? modernKey = some value ∧ word ∈ Text.words value := by
  have keys : fontKeys.filterMap s.get? = (s.get? modernKey).toList := by
    have both : fontKeys = [modernKey, legacyKey] := rfl
    rw [both, List.filterMap_cons, List.filterMap_cons, h]
    cases s.get? modernKey <;> rfl
  rw [fontWords, keys, List.mem_flatMap]
  simp only [Option.mem_toList]

end HostStyle

structure ModernTheme.IsModernlySpelled (t : ModernTheme) : Prop where
  globals : t.globals.get? HostStyle.legacyKey = none
  rules : ∀ rule ∈ t.rules, rule.style.get? HostStyle.legacyKey = none

namespace Theme
open HostStyle

variable {t : ModernTheme} {score : Scorer} {path : Text}

theorem mem_words_layered (spelled : t.IsModernlySpelled) {value word : Text}
    (top : Rule.Topmost score path modernKey t.rules value) (h : word ∈ flagWords) :
    word ∈ Text.words ((modern t).layered score path).fontStyle ↔
      word ∈ Text.words (Variable.resolve t.vars value) ∨
        ∃ global, t.globals.get? modernKey = some global ∧
          word ∈ Text.words (Variable.resolve t.vars global) := by
  have noGlobal : (Variable.resolveAll t.vars t.globals).get? legacyKey = none := by
    rw [Variable.resolveAll, Dict.get?_mapValues, spelled.globals, Option.map_none]
  have noForeground : (onlyForeground t.globals).get? legacyKey = none := by
    unfold onlyForeground
    split
    · rfl
    · rw [Dict.get?_insert, if_neg (by decide), Dict.get?_empty]
  have noRule : (Variable.resolveAll t.vars
      (accumulate score path t.rules (onlyForeground t.globals))).get? legacyKey = none := by
    rw [Variable.resolveAll, Dict.get?_mapValues, Option.map_eq_none_iff,
      Option.eq_none_iff_forall_ne_some]
    intro stated hstated
    rcases get?_accumulate_origin hstated with ⟨rule, hrule, hvalue⟩ | below
    · rw [spelled.rules rule hrule] at hvalue
      contradiction
    · rw [noForeground] at below
      contradiction
  rw [layered, viewStyle, scopeStyle, mem_words_overlay h, mem_fontWords_iff noGlobal,
    mem_fontWords_iff noRule]
  simp only [Variable.resolveAll, Dict.get?_mapValues, get?_accumulate_of_topmost top,
    Option.map_some, Option.some.injEq, exists_eq_left', Option.map_eq_some_iff, ↓existsAndEq, and_true]

end Theme

namespace Resolver
open HostStyle

/-- Where a rule that matches sets the font style of a modern theme, a flag is reported just if the
rule that ranks highest or the globals name it. So that rule alone decides just if the globals name no
flag that it does not name. -/
theorem fontStyle_ranked {t : ModernTheme} {score : Scorer} {history : List Moment} {m : Moment}
    (h : ∀ e ∈ history ++ [m], e.view.Reports score (.modern t)) (spelled : t.IsModernlySpelled)
    (sets : ∃ rule ∈ t.rules, ∃ n value, rule.Scores score m.path n ∧
      rule.style.get? modernKey = some value) :
    ∃ value text, Rule.Highest score m.path modernKey t.rules value ∧
      (((new (.modern t)).after history).answerTo m).style.get? legacyKey = some text ∧
      text ∈ fontStyles ∧
      (∀ word ∈ flagWords, word ∈ Text.words text ↔
        word ∈ Text.words (Variable.resolve t.vars value) ∨
          ∃ global, t.globals.get? modernKey = some global ∧
            word ∈ Text.words (Variable.resolve t.vars global)) ∧
      ((∀ word ∈ flagWords, word ∈ Text.words text ↔ word ∈ Text.words (Variable.resolve t.vars value)) ↔
        ∀ word ∈ flagWords, ∀ global, t.globals.get? modernKey = some global →
          word ∈ Text.words (Variable.resolve t.vars global) →
            word ∈ Text.words (Variable.resolve t.vars value)) := by
  obtain ⟨value, top⟩ : ∃ value, Rule.Topmost score m.path modernKey t.rules value := by
    refine (Rule.topmost_or_unset score m.path modernKey t.rules).resolve_right fun unset => ?_
    obtain ⟨rule, hrule, n, value, scores, hvalue⟩ := sets
    rw [Rule.unset_iff.1 unset rule hrule n scores] at hvalue
    contradiction
  have flags := fun word (hword : word ∈ flagWords) => Theme.mem_words_layered spelled top hword
  refine ⟨value, ((Theme.modern t).layered score m.path).fontStyle, Rule.highest_of_topmost top, ?_,
    fontStyle_mem _, flags, ?_⟩
  · rw [style_of_reports h, get?_toStyle_legacyKey]
  · constructor
    · intro alone word hword global hglobal named
      exact (alone word hword).1 ((flags word hword).2 (.inr ⟨global, hglobal, named⟩))
    · intro lacking word hword
      rw [flags word hword, or_iff_left_iff_imp]
      exact fun ⟨global, hglobal, named⟩ => lacking word hword global hglobal named

end Resolver

namespace Sample
open HostStyle

def fontRule (selector value : Text) : Rule := ⟨some selector, Dict.empty.insert modernKey value⟩

def fontTheme (upper : Text) : ModernTheme where
  name := none
  globals := Dict.empty.insert modernKey "bold".toList
  vars := Dict.empty.insert ['x'] "underline italic".toList
  rules := [fontRule ['d'] "bold".toList, fontRule ['c'] upper]

theorem isModernlySpelled_fontTheme (upper : Text) : (fontTheme upper).IsModernlySpelled := by
  have insert : ∀ value : Text, (Dict.empty.insert modernKey value).get? legacyKey = none := fun value => by
    rw [Dict.get?_insert, if_neg (by decide), Dict.get?_empty]
  refine ⟨insert _, fun rule hrule => ?_⟩
  simp only [fontTheme, List.mem_cons, List.not_mem_nil, or_false] at hrule
  rcases hrule with rfl | rfl <;> exact insert _

theorem highest_fontTheme (path upper : Text) :
    Rule.Highest scorer path modernKey (fontTheme upper).rules upper := by
  refine Rule.highest_of_topmost ⟨[fontRule ['d'] "bold".toList], fontRule ['c'] upper, [], ⟨2⟩, rfl,
    ⟨⟨['c'], rfl, rfl⟩, by decide, by rw [fontRule, Dict.get?_insert, if_pos rfl]⟩, ?_, by simp⟩
  simp only [List.mem_singleton, forall_eq]
  intro s v h
  obtain ⟨_, hselector, rfl⟩ := h.scored
  cases hselector
  exact show (1 : UInt64) ≤ 2 by decide

theorem reports_request (theme : Theme) :
    ∀ e ∈ [] ++ [request theme], e.view.Reports scorer theme := by
  intro e he
  rw [List.mem_singleton.1 he]
  exact reports_reportingView theme

end Sample

theorem Resolver.fontStyle_ranked_sample :
    (∀ e ∈ [] ++ [Sample.request (.modern (Sample.fontTheme "var(x)".toList))],
      e.view.Reports Sample.scorer (.modern (Sample.fontTheme "var(x)".toList))) ∧
    (Sample.fontTheme "var(x)".toList).IsModernlySpelled ∧
    (∃ rule ∈ (Sample.fontTheme "var(x)".toList).rules, ∃ n value,
      rule.Scores Sample.scorer "s c".toList n ∧ rule.style.get? HostStyle.modernKey = some value) ∧
    ∃ text, (((new (.modern (Sample.fontTheme "var(x)".toList))).after []).answerTo
        (Sample.request (.modern (Sample.fontTheme "var(x)".toList)))).style.get? HostStyle.legacyKey =
          some text ∧
      HostStyle.boldWord ∈ Text.words text := by
  have reports := Sample.reports_request (.modern (Sample.fontTheme "var(x)".toList))
  have spelled := Sample.isModernlySpelled_fontTheme "var(x)".toList
  have sets : ∃ rule ∈ (Sample.fontTheme "var(x)".toList).rules, ∃ n value,
      rule.Scores Sample.scorer "s c".toList n ∧ rule.style.get? HostStyle.modernKey = some value := by
    obtain ⟨i, rule, n, hi, scores, hvalue, -⟩ := Sample.highest_fontTheme "s c".toList "var(x)".toList
    exact ⟨rule, List.mem_of_getElem? hi, n, _, scores, hvalue⟩
  obtain ⟨value, text, -, reported, -, flags, -⟩ := fontStyle_ranked reports spelled sets
  have bold : HostStyle.boldWord ∈ Text.words text := by
    refine (flags _ (by decide)).2 (.inr ⟨"bold".toList, ?_, by decide +kernel⟩)
    rw [Sample.fontTheme, Dict.get?_insert, if_pos rfl]
  exact ⟨reports, spelled, sets, text, reported, bold⟩

/-- The rule that ranks highest has an empty font style, but that of the globals is reported. -/
theorem Resolver.fontStyle_of_globals :
    (∀ e ∈ [] ++ [Sample.request (.modern (Sample.fontTheme []))],
      e.view.Reports Sample.scorer (.modern (Sample.fontTheme []))) ∧
    (Sample.fontTheme []).IsModernlySpelled ∧
    Rule.Highest Sample.scorer "s c".toList HostStyle.modernKey (Sample.fontTheme []).rules [] ∧
    (((new (.modern (Sample.fontTheme []))).after []).answerTo
      (Sample.request (.modern (Sample.fontTheme [])))).style.get? HostStyle.legacyKey =
        some HostStyle.boldWord := by
  have reports := Sample.reports_request (.modern (Sample.fontTheme []))
  have spelled := Sample.isModernlySpelled_fontTheme []
  have highest := Sample.highest_fontTheme "s c".toList []
  refine ⟨reports, spelled, highest, ?_⟩
  have flags := fun word (h : word ∈ HostStyle.flagWords) =>
    Theme.mem_words_layered spelled (Rule.topmost_of_highest highest) h
  have global : (Sample.fontTheme []).globals.get? HostStyle.modernKey = some HostStyle.boldWord := by
    decide +kernel
  have bold := (flags HostStyle.boldWord (by decide)).2 (.inr ⟨_, global, by decide +kernel⟩)
  have italic := mt (flags HostStyle.italicWord (by decide)).1 (by
    rw [global]
    decide +kernel)
  have only : ∀ text ∈ HostStyle.fontStyles, HostStyle.boldWord ∈ Text.words text →
      HostStyle.italicWord ∉ Text.words text → text = HostStyle.boldWord := by decide
  rw [style_of_reports reports, HostStyle.get?_toStyle_legacyKey]
  exact congrArg some (only _ (HostStyle.fontStyle_mem _) bold italic)

end SchemeCheck
