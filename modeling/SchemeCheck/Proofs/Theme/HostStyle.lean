import SchemeCheck.Host.Basic
import SchemeCheck.Proofs.Theme.Matching
import SchemeCheck.Theme.Resolver
set_option autoImplicit false

namespace SchemeCheck

namespace HostStyle

theorem get?_foldl_erase (keys : List Text) (s : Style) (key : Text) :
    (keys.foldl Dict.erase s).get? key = if key ∈ keys then none else s.get? key := by
  induction keys generalizing s with
  | nil => simp
  | cons k keys ih =>
    rw [List.foldl_cons, ih, Dict.get?_erase]
    by_cases here : key = k
    · simp [here]
    · simp [here]

theorem get?_ofStyle (s : Style) (key : Text) :
    (ofStyle s).attributes.get? key = if key ∈ fontKeys then none else s.get? key :=
  get?_foldl_erase fontKeys s key

theorem get?_overlay (base upper : HostStyle) (key : Text) :
    (base.overlay upper).attributes.get? key =
      (upper.attributes.get? key).or (base.attributes.get? key) :=
  Dict.get?_extend base.attributes upper.attributes key

theorem get?_toStyle (s : HostStyle) (key : Text) :
    s.toStyle.get? key =
      if key = "fontStyle".toList then some s.fontStyle else s.attributes.get? key :=
  Dict.get?_insert s.attributes _ key s.fontStyle

def fontStyles : List Text := [[], "bold".toList, "italic".toList, "bold italic".toList]

theorem fontStyle_mem (s : HostStyle) : s.fontStyle ∈ fontStyles := by
  rw [fontStyle]
  split <;> split <;> decide

end HostStyle

/-- Attributes that the rules leave open are taken from the base, through its foreground or directly. -/
theorem get?_accumulate_onlyForeground (score : Scorer) (path : Text) (rules : List Rule)
    (base : Style) (key : Text) :
    ((accumulate score path rules (Theme.onlyForeground base)).get? key).or (base.get? key) =
      (accumulate score path rules base).get? key := by
  have foreground : ((Theme.onlyForeground base).get? key).or (base.get? key) = base.get? key := by
    rw [Theme.onlyForeground]
    split
    · rfl
    · next value hvalue =>
      rw [Dict.get?_insert]
      split
      · next same => rw [same, hvalue, Option.some_or]
      · rfl
  rw [get?_accumulate, get?_accumulate, Option.or_assoc, foreground]

namespace Theme

def layered (score : Scorer) (path : Text) (theme : Theme) : HostStyle :=
  theme.viewStyle.overlay (theme.scopeStyle score path)

theorem get?_layered_legacy (t : LegacyTheme) (score : Scorer) (path : Text) {key : Text}
    (hkey : key ∉ HostStyle.fontKeys) :
    ((legacy t).layered score path).attributes.get? key =
      (accumulate score path t.scopedRules t.defaultStyle).get? key := by
  rw [layered, HostStyle.get?_overlay]
  simp only [viewStyle, scopeStyle, HostStyle.get?_ofStyle, if_neg hkey]
  exact get?_accumulate_onlyForeground ..

theorem get?_layered_modern (t : ModernTheme) (score : Scorer) (path : Text) {key : Text}
    (hkey : key ∉ HostStyle.fontKeys) :
    ((modern t).layered score path).attributes.get? key =
      ((accumulate score path t.rules t.globals).get? key).map (Variable.resolve t.vars) := by
  rw [layered, HostStyle.get?_overlay]
  simp only [viewStyle, scopeStyle, HostStyle.get?_ofStyle, if_neg hkey, Variable.resolveAll,
    Dict.get?_mapValues]
  rw [← Option.map_or, get?_accumulate_onlyForeground]

end Theme

structure View.Reports (score : Scorer) (theme : Theme) (view : View) : Prop where
  style : view.style = theme.viewStyle
  styleForScope : ∀ path, view.styleForScope path = theme.scopeStyle score path

theorem View.Reports.resolve {score : Scorer} {t : ModernTheme} {view : View}
    (h : view.Reports score (.modern t)) (scorer : Scorer) (path : Text) :
    (Theme.modern t).resolve view scorer path = ((Theme.modern t).layered score path).toStyle := by
  rw [Theme.resolve, h.style, h.styleForScope, Theme.layered]

end SchemeCheck
