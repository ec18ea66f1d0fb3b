import SchemeCheck.Coverage.Extract
import SchemeCheck.Proofs.Dict
set_option autoImplicit false

namespace SchemeCheck

def Style.HasHex (style : Style) (color : Text) : Prop :=
  ∃ key value, style.get? key = some value ∧ value.head? = some '#' ∧ Text.lower value = color

namespace Theme

inductive HasColor : Theme → Text → Prop where
  | global {t : ModernTheme} {color : Text} : t.globals.HasHex color → HasColor (.modern t) color
  | var {t : ModernTheme} {color : Text} : t.vars.HasHex color → HasColor (.modern t) color
  | rule {t : ModernTheme} {rule : Rule} {color : Text} :
      rule ∈ t.rules → rule.style.HasHex color → HasColor (.modern t) color
  | default {t : LegacyTheme} {rule : Rule} {color : Text} :
      rule ∈ t.rules → rule.selector = none → rule.style.HasHex color → HasColor (.legacy t) color
  | ground {t : LegacyTheme} {rule : Rule} {key value : Text} :
      rule ∈ t.rules → key = "foreground".toList ∨ key = "background".toList →
      rule.style.get? key = some value → HasColor (.legacy t) (Text.lower value)

/-- A scope is a part of the selector of some rule, between commas and without the blanks around. -/
inductive HasScope (theme : Theme) : Text → Prop where
  | intro {rule : Rule} {selector part : Text} : rule ∈ theme.rules → rule.selector = some selector →
      part ∈ Text.split (· == ',') selector → HasScope theme (Text.trim part)

inductive HasFontStyle : Theme → Text → Prop where
  | intro {t : LegacyTheme} {rule : Rule} {value word : Text} : rule ∈ t.rules →
      rule.style.get? "fontStyle".toList = some value → word ∈ Text.words value →
      HasFontStyle (.legacy t) word

end Theme

namespace Coverage

structure SchemeInfo.Describes (info : SchemeInfo) (theme : Theme) : Prop where
  colors_iff : ∀ color, color ∈ info.colors.toList ↔ theme.HasColor color
  scopes_iff : ∀ scope, scope ∈ info.scopes.toList ↔ theme.HasScope scope
  fontStyles_iff : ∀ word, word ∈ info.fontStyles.toList ↔ theme.HasFontStyle word

theorem mem_hexColors_iff (style : Style) (color : Text) :
    color ∈ hexColors style ↔ style.HasHex color := by
  simp only [hexColors, List.mem_map, List.mem_filter, decide_eq_true_eq, Dict.mem_values_iff]
  exact ⟨fun ⟨v, ⟨⟨k, hv⟩, hex⟩, same⟩ => ⟨k, v, hv, hex, same⟩,
    fun ⟨k, v, hv, hex, same⟩ => ⟨v, ⟨⟨k, hv⟩, hex⟩, same⟩⟩

theorem mem_modernColors_iff (t : ModernTheme) (color : Text) :
    color ∈ modernColors t ↔ (Theme.modern t).HasColor color := by
  simp only [modernColors, List.mem_append, List.mem_flatMap, mem_hexColors_iff]
  constructor
  · rintro ((global | var) | ⟨rule, mem, hex⟩)
    · exact .global global
    · exact .var var
    · exact .rule mem hex
  · rintro (global | var | ⟨mem, hex⟩)
    · exact .inl (.inl global)
    · exact .inl (.inr var)
    · exact .inr ⟨_, mem, hex⟩

theorem mem_legacyColors_iff (rule : Rule) (color : Text) :
    color ∈ legacyColors rule ↔ rule.selector = none ∧ rule.style.HasHex color ∨
      ∃ key value, (key = "foreground".toList ∨ key = "background".toList) ∧
        rule.style.get? key = some value ∧ Text.lower value = color := by
  have grounds : color ∈ (["foreground".toList, "background".toList].filterMap
      rule.style.get?).map Text.lower ↔ ∃ key value,
        (key = "foreground".toList ∨ key = "background".toList) ∧
          rule.style.get? key = some value ∧ Text.lower value = color := by
    simp only [List.mem_map, List.mem_filterMap, List.mem_cons, List.not_mem_nil, or_false]
    exact ⟨fun ⟨value, ⟨key, one, hv⟩, same⟩ => ⟨key, value, one, hv, same⟩,
      fun ⟨key, value, one, hv, same⟩ => ⟨value, ⟨key, one, hv⟩, same⟩⟩
  rw [legacyColors, List.mem_append, grounds]
  refine or_congr ?_ Iff.rfl
  cases hselector : rule.selector with
  | none => simp [Rule.isDefault, hselector, mem_hexColors_iff]
  | some selector => simp [Rule.isDefault, hselector]

theorem mem_colors_legacy_iff (t : LegacyTheme) (color : Text) :
    color ∈ t.rules.flatMap legacyColors ↔ (Theme.legacy t).HasColor color := by
  simp only [List.mem_flatMap, mem_legacyColors_iff]
  constructor
  · rintro ⟨rule, mem, ⟨default, hex⟩ | ⟨key, value, one, hv, rfl⟩⟩
    · exact .default mem default hex
    · exact .ground mem one hv
  · rintro (_ | _ | _ | ⟨mem, default, hex⟩ | ⟨mem, one, hv⟩)
    · exact ⟨_, mem, .inl ⟨default, hex⟩⟩
    · exact ⟨_, mem, .inr ⟨_, _, one, hv, rfl⟩⟩

theorem mem_ruleScopes_iff (theme : Theme) (scope : Text) :
    scope ∈ ruleScopes theme.rules ↔ theme.HasScope scope := by
  simp only [ruleScopes, selectorScopes, List.mem_flatMap, List.mem_filterMap, List.mem_map]
  constructor
  · rintro ⟨selector, ⟨rule, mem, hselector⟩, part, hpart, rfl⟩
    exact .intro mem hselector hpart
  · rintro ⟨mem, hselector, hpart⟩
    exact ⟨_, ⟨_, mem, hselector⟩, _, hpart, rfl⟩

theorem mem_legacyFontStyles_iff (rule : Rule) (word : Text) :
    word ∈ legacyFontStyles rule ↔
      ∃ value, rule.style.get? "fontStyle".toList = some value ∧ word ∈ Text.words value := by
  rw [legacyFontStyles]
  cases rule.style.get? "fontStyle".toList with
  | none => simp
  | some value => simp

theorem mem_fontStyles_iff (t : LegacyTheme) (word : Text) :
    word ∈ t.rules.flatMap legacyFontStyles ↔ (Theme.legacy t).HasFontStyle word := by
  simp only [List.mem_flatMap, mem_legacyFontStyles_iff]
  constructor
  · rintro ⟨rule, mem, value, hvalue, hword⟩
    exact .intro mem hvalue hword
  · rintro ⟨mem, hvalue, hword⟩
    exact ⟨_, mem, _, hvalue, hword⟩

theorem describes_extract (theme : Theme) : (extract theme).Describes theme := by
  cases theme with
  | modern t => exact {
      colors_iff := fun color => (TextSet.mem_toList_ofList ..).trans (mem_modernColors_iff t color)
      scopes_iff := fun scope =>
        (TextSet.mem_toList_ofList ..).trans (mem_ruleScopes_iff (.modern t) scope)
      -- A modern scheme tells no font styles, whatever its rules have.
      fontStyles_iff := fun word => iff_of_false (TextSet.not_mem_toList_empty word) nofun }
  | legacy t => exact {
      colors_iff := fun color => (TextSet.mem_toList_ofList ..).trans (mem_colors_legacy_iff t color)
      scopes_iff := fun scope =>
        (TextSet.mem_toList_ofList ..).trans (mem_ruleScopes_iff (.legacy t) scope)
      fontStyles_iff := fun word => (TextSet.mem_toList_ofList ..).trans (mem_fontStyles_iff t word) }

end Coverage
end SchemeCheck
