import Mathlib.Data.List.Forall2
import SchemeCheck.Proofs.Text.Letters
import SchemeCheck.Proofs.Theme.HostStyle
import SchemeCheck.Proofs.Theme.Resolver
set_option autoImplicit false

namespace SchemeCheck

/-- Two values of an attribute: colors may have other letters, unless they begin like a reference. -/
def SameValue (key value value' : Text) : Prop :=
  value = value' ∨
    (key = Attribute.foreground.key ∨ key = Attribute.background.key) ∧ Text.SameLetters value value' ∧
      Text.startsWith "var(".toList (Text.lower (Text.trim value)) = false

namespace SameValue
variable {key value value' : Text}

theorem refl (key value : Text) : SameValue key value value := .inl rfl

theorem lower_eq (h : SameValue key value value') : Text.lower value = Text.lower value' := by
  rcases h with rfl | ⟨-, letters, -⟩
  · rfl
  · exact letters.lower

theorem eq_of_font (h : SameValue key value value') (font : key ∈ HostStyle.fontKeys) :
    value = value' := by
  rcases h with same | ⟨color, -, -⟩
  · exact same
  · rcases color with rfl | rfl
    · exact absurd font (by decide)
    · exact absurd font (by decide)

theorem resolve_of_lower {value : Text}
    (h : Text.startsWith "var(".toList (Text.lower (Text.trim value)) = false) (vars : Style) :
    Variable.resolve vars value = Text.trim value := by
  have none : Text.after? "var(".toList (Text.trim value) = Option.none := by
    cases hafter : Text.after? "var(".toList (Text.trim value) with
    | none => rfl
    | some rest =>
      have start : Text.trim value = "var(".toList ++ rest := Text.after?_eq_some_iff.1 hafter
      have cut : "var(".toList ++ rest = ['v', 'a', 'r'] ++ '(' :: rest := rfl
      have word : Text.lower ['v', 'a', 'r'] = ['v', 'a', 'r'] :=
        Text.lower_isLower (Text.forall_mem_of_all (by decide))
      have joined : ['v', 'a', 'r'] ++ '(' :: Text.lower rest = "var(".toList ++ Text.lower rest := rfl
      rw [start, cut, Text.lower_border (by decide) (by decide), word, joined,
        Text.startsWith_append] at h
      contradiction
  have stays : Variable.follow? vars (Text.trim value) = Option.none := by
    rw [Variable.follow?, Variable.reference?, none]
    rfl
  rw [Variable.resolve, Variable.maxHops, Variable.followUpTo, stays]

theorem lower_resolve (h : SameValue key value value') (vars : Style) :
    Text.lower (Variable.resolve vars value) = Text.lower (Variable.resolve vars value') := by
  rcases h with rfl | ⟨-, letters, plain⟩
  · rfl
  · have trimmed := letters.trim.lower
    have plain' := plain
    rw [trimmed] at plain'
    rw [resolve_of_lower plain, resolve_of_lower plain', trimmed]

end SameValue

section
variable {α β : Type} {R : α → β → Prop}

theorem rel_or {a b : Option α} {a' b' : Option β} (h : Option.Rel R a a') (h' : Option.Rel R b b') :
    Option.Rel R (a.or b) (a'.or b') := by
  cases h with
  | none => simpa using h'
  | some related => simpa using Option.Rel.some related

theorem forall₂_mergeSort {le : α → α → Bool} {le' : β → β → Bool} {l : List α} {l' : List β}
    (h : List.Forall₂ R l l') (same : ∀ a b a' b', R a a' → R b b' → le a b = le' a' b') :
    List.Forall₂ R (l.mergeSort le) (l'.mergeSort le') := by
  obtain ⟨length, related⟩ := List.forall₂_iff_zip.1 h
  -- Both lists are sorted as one list of pairs.
  have left := List.map_mergeSort (l := l.zip l') (f := Prod.fst) (r := fun p q => le p.1 q.1)
    (s := le) fun _ _ _ _ => rfl
  have right := List.map_mergeSort (l := l.zip l') (f := Prod.snd) (r := fun p q => le p.1 q.1)
    (s := le') fun p hp q hq => same _ _ _ _ (related hp) (related hq)
  rw [List.map_fst_zip length.le] at left
  rw [List.map_snd_zip length.ge] at right
  rw [← left, ← right, List.forall₂_map_left_iff, List.forall₂_map_right_iff, List.forall₂_same]
  intro p hp
  exact related (List.mem_mergeSort.1 hp)

end

namespace Style

def SameColors (s s' : Style) : Prop := ∀ key, Option.Rel (SameValue key) (s.get? key) (s'.get? key)

namespace SameColors
variable {s s' : Style}

theorem refl (s : Style) : SameColors s s := by
  intro key
  cases s.get? key with
  | none => exact .none
  | some value => exact .some (.refl key value)

theorem insert (h : SameColors s s') {key value value' : Text} (same : SameValue key value value') :
    SameColors (s.insert key value) (s'.insert key value') := by
  intro k
  rw [Dict.get?_insert, Dict.get?_insert]
  split
  · next here => exact .some (here ▸ same)
  · exact h k

theorem extend (h : SameColors s s') {upper upper' : Style} (above : SameColors upper upper') :
    SameColors (s.extend upper) (s'.extend upper') := by
  intro key
  rw [Dict.get?_extend, Dict.get?_extend]
  exact rel_or (above key) (h key)

theorem merge (h : SameColors s s') {upper upper' : List Style}
    (above : List.Forall₂ SameColors upper upper') :
    SameColors (Style.merge s upper) (Style.merge s' upper') := by
  induction above generalizing s s' with
  | nil => exact h
  | cons first _ ih => exact ih (h.extend first)

theorem map_get? {β : Type} {f : Text → β} (h : SameColors s s') (key : Text)
    (hf : ∀ value value', SameValue key value value' → f value = f value') :
    (s.get? key).map f = (s'.get? key).map f := by
  have here := h key
  revert here
  generalize s.get? key = found
  generalize s'.get? key = found'
  intro here
  cases here with
  | none => rfl
  | some same => rw [Option.map_some, Option.map_some, hf _ _ same]

theorem get?_font (h : SameColors s s') {key : Text} (font : key ∈ HostStyle.fontKeys) :
    s.get? key = s'.get? key := by
  simpa using h.map_get? key (f := fun value => value) fun _ _ same => same.eq_of_font font

theorem lower_getD (h : SameColors s s') (key : Text) :
    Text.lower (s.getD key) = Text.lower (s'.getD key) := by
  unfold getD
  rw [← Option.getD_map Text.lower, ← Option.getD_map Text.lower, h.map_get? key fun _ _ same => same.lower_eq]

theorem lower_resolve (h : SameColors s s') (vars : Style) (key : Text) :
    Text.lower (((s.get? key).map (Variable.resolve vars)).getD []) =
      Text.lower (((s'.get? key).map (Variable.resolve vars)).getD []) := by
  have same := h.map_get? key (f := Text.lower ∘ Variable.resolve vars)
    fun _ _ same => same.lower_resolve vars
  rw [← Option.getD_map Text.lower, ← Option.getD_map Text.lower, Option.map_map, Option.map_map, same]

end SameColors
end Style

structure Rule.SameColors (r r' : Rule) : Prop where
  selector_eq : r.selector = r'.selector
  style : r.style.SameColors r'.style

section
variable {rules rules' : List Rule}

theorem forall₂_rankedRules (h : List.Forall₂ Rule.SameColors rules rules') (score : Scorer)
    (path : Text) :
    List.Forall₂ (fun e e' => e.1 = e'.1 ∧ e.2.SameColors e'.2) (rankedRules score path rules)
      (rankedRules score path rules') := by
  have scored : ∀ {r r' : Rule}, r.SameColors r' →
      Option.Rel (fun e e' : Score × Rule => e.1 = e'.1 ∧ e.2.SameColors e'.2)
        (r.scored? score path) (r'.scored? score path) := by
    intro r r' same
    unfold Rule.scored?
    rw [← same.selector_eq]
    cases r.selector with
    | none => exact .none
    | some selector =>
      simp only
      split
      · exact .some ⟨rfl, same⟩
      · exact .none
  have matching := List.rel_filterMap (R := Rule.SameColors) (fun _ _ => scored) h
  refine forall₂_mergeSort matching ?_
  intro a b a' b' ha hb
  rw [ha.1, hb.1]

theorem Style.SameColors.accumulate {base base' : Style} (below : base.SameColors base')
    (h : List.Forall₂ Rule.SameColors rules rules') (score : Scorer) (path : Text) :
    Style.SameColors (SchemeCheck.accumulate score path rules base)
      (SchemeCheck.accumulate score path rules' base') := by
  refine below.merge ?_
  rw [List.forall₂_map_left_iff, List.forall₂_map_right_iff]
  exact (forall₂_rankedRules h score path).imp fun _ _ same => same.2.style

theorem Rule.SameColors.isDefault_eq {r r' : Rule} (h : r.SameColors r') : r.isDefault = r'.isDefault := by
  rw [isDefault, isDefault, h.selector_eq]

theorem forall₂_filter (h : List.Forall₂ Rule.SameColors rules rules') {p : Rule → Bool}
    (hp : ∀ r r' : Rule, r.SameColors r' → p r = p r') :
    List.Forall₂ Rule.SameColors (rules.filter p) (rules'.filter p) :=
  List.rel_filter (fun r r' same => iff_of_eq (congrArg (· = true) (hp r r' same))) h

end

namespace Theme

inductive SameColors : Theme → Theme → Prop where
  | legacy {t t' : LegacyTheme} : t.name = t'.name → List.Forall₂ Rule.SameColors t.rules t'.rules →
      SameColors (.legacy t) (.legacy t')
  | modern {t t' : ModernTheme} : t.name = t'.name → t.globals.SameColors t'.globals →
      t.vars = t'.vars → List.Forall₂ Rule.SameColors t.rules t'.rules →
      SameColors (.modern t) (.modern t')

theorem SameColors.refl (theme : Theme) : SameColors theme theme := by
  have rules : ∀ rules : List Rule, List.Forall₂ Rule.SameColors rules rules := by
    intro rules
    rw [List.forall₂_same]
    intro r _
    exact ⟨rfl, .refl r.style⟩
  cases theme with
  | legacy t => exact .legacy rfl (rules t.rules)
  | modern t => exact .modern rfl (.refl t.globals) rfl (rules t.rules)

end Theme

theorem LegacyTheme.sameColors_defaultStyle {t t' : LegacyTheme}
    (h : List.Forall₂ Rule.SameColors t.rules t'.rules) :
    t.defaultStyle.SameColors t'.defaultStyle := by
  refine (Style.SameColors.refl Dict.empty).merge ?_
  rw [List.forall₂_map_left_iff, List.forall₂_map_right_iff]
  have defaults := forall₂_filter h fun _ _ same => same.isDefault_eq
  exact defaults.imp fun _ _ same => same.style

namespace HostStyle

theorem fontWords_resolveAll {s s' : Style} (h : s.SameColors s') (vars : Style) :
    fontWords (Variable.resolveAll vars s) = fontWords (Variable.resolveAll vars s') := by
  unfold fontWords
  congr 1
  refine List.filterMap_congr fun key font => ?_
  rw [Variable.resolveAll, Variable.resolveAll, Dict.get?_mapValues, Dict.get?_mapValues,
    h.get?_font font]

theorem fontStyle_overlay {base base' upper upper' : Style} (below : fontWords base = fontWords base')
    (above : fontWords upper = fontWords upper') :
    ((ofStyle base).overlay (ofStyle upper)).fontStyle =
      ((ofStyle base').overlay (ofStyle upper')).fontStyle := by
  unfold fontStyle overlay ofStyle flag
  simp only [below, above]

end HostStyle

namespace Theme

theorem sameColors_onlyForeground {s s' : Style} (h : s.SameColors s') :
    (onlyForeground s).SameColors (onlyForeground s') := by
  have here := h "foreground".toList
  unfold onlyForeground
  cases hs : s.get? "foreground".toList <;> cases hs' : s'.get? "foreground".toList <;>
    rw [hs, hs'] at here
  · exact .refl _
  · contradiction
  · contradiction
  · cases here with
    | some same => exact (Style.SameColors.refl Dict.empty).insert same

theorem lower_layered {t t' : ModernTheme} (globals : t.globals.SameColors t'.globals)
    (vars : t.vars = t'.vars) (rules : List.Forall₂ Rule.SameColors t.rules t'.rules) (score : Scorer)
    (path : Text) (k : Attribute) :
    Text.lower (((modern t).layered score path).toStyle.getD k.key) =
      Text.lower (((modern t').layered score path).toStyle.getD k.key) := by
  unfold Style.getD
  rw [HostStyle.get?_toStyle, HostStyle.get?_toStyle]
  split
  · have fonts : ((modern t).layered score path).fontStyle = ((modern t').layered score path).fontStyle := by
      simp only [layered, viewStyle, scopeStyle, ← vars]
      exact HostStyle.fontStyle_overlay (HostStyle.fontWords_resolveAll globals t.vars)
        (HostStyle.fontWords_resolveAll
          ((sameColors_onlyForeground globals).accumulate rules score path) t.vars)
    rw [fonts]
  · next other =>
    have plain : k.key ∉ HostStyle.fontKeys := by
      cases k
      · decide
      · decide
      · exact absurd rfl other
    rw [get?_layered_modern t score path plain, get?_layered_modern t' score path plain, ← vars]
    exact (globals.accumulate rules score path).lower_resolve t.vars k.key

end Theme

def View.SameScopes (view view' : View) : Prop :=
  ∀ row column, view.scopeName (view.textPoint row column) = view'.scopeName (view'.textPoint row column)

/-- In views that report them, color schemes with the same colors give every column styles that read
the same in lower case. -/
theorem Theme.SameColors.lower_styleAt {theme theme' : Theme} (h : theme.SameColors theme')
    {view view' : View} {shown : Scorer} (reports : view.Reports shown theme)
    (reports' : view'.Reports shown theme') (scopes : view.SameScopes view') (score : Scorer)
    (row column : Nat) (k : Attribute) :
    Text.lower ((theme.styleAt view score row column).getD k.key) =
      Text.lower ((theme'.styleAt view' score row column).getD k.key) := by
  unfold styleAt
  rw [← scopes row column]
  generalize Text.trim (view.scopeName (view.textPoint row column)) = path
  cases h with
  | @legacy t t' _ rules =>
    have selecting : List.Forall₂ Rule.SameColors t.scopedRules t'.scopedRules :=
      forall₂_filter rules fun _ _ same => congrArg Bool.not same.isDefault_eq
    have below := LegacyTheme.sameColors_defaultStyle rules
    exact (below.accumulate selecting score path).lower_getD k.key
  | @modern t t' _ globals vars rules =>
    rw [reports.resolve, reports'.resolve]
    exact lower_layered globals vars rules shown path k

end SchemeCheck
