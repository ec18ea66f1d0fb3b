import SchemeCheck.Proofs.Coverage.Extract
import SchemeCheck.Proofs.Coverage.Missing
import SchemeCheck.Proofs.Selector
set_option autoImplicit false

/-!
Scopes that a report counts and scopes that are scored. Both take selectors apart, but a report knows
only the alternatives between commas: a scope of the minimal set that stands there by itself is
counted, while one with a bar next to it is scored and yet reported as missing.
-/

namespace SchemeCheck

def Theme.NamesApart (theme : Theme) (scope : Text) : Prop :=
  ∃ rule ∈ theme.rules, ∃ selector, rule.selector = some selector ∧ Selector.NamesApart selector scope

theorem Theme.namesApart_iff {theme : Theme} {scope : Text} (h : '|' ∉ scope) :
    theme.NamesApart scope ↔ theme.HasScope scope := by
  simp only [NamesApart, Selector.namesApart_iff h]
  constructor
  · rintro ⟨rule, mem, selector, hselector, part, hpart, rfl⟩
    exact .intro mem hselector hpart
  · rintro ⟨mem, hselector, hpart⟩
    exact ⟨_, mem, _, hselector, _, hpart, rfl⟩

namespace Coverage

theorem isScopeName_minimal : ∀ scope ∈ minimalScopes, Selector.IsScopeName scope ∧ '|' ∉ scope := by
  have names : ∀ scope ∈ minimalScopes, scope ≠ [] ∧ scope.all (!isBlank ·) = true ∧
      scope.head? ≠ some '-' ∧ Scope.isValid (Scope.ofText scope) = true ∧ '|' ∉ scope := by
    decide +kernel
  intro scope minimal
  obtain ⟨ne, noBlank, notMinus, valid, noBar⟩ := names scope minimal
  exact ⟨⟨ne, by simpa using noBlank, notMinus, valid⟩, noBar⟩

/-- A report on a scheme counts the scopes of the minimal set that its rules name between commas, each
of which is scored, too, and it lists the others as missing. -/
theorem counts_namesApart {theme : Theme} {r : SchemeReport} {scope : Text} (info : r.info = extract theme)
    (minimal : scope ∈ minimalScopes) :
    (theme.NamesApart scope → scope ∈ (extract theme).scopes.toList ∧
      scope ∈ r.info.scopes.toList.filter minimalScopes.contains ∧ scope ∉ r.missingScopes) ∧
    (¬ theme.NamesApart scope → scope ∈ r.missingScopes) ∧
    ∀ selector, Selector.NamesApart selector scope → Selector.Names selector scope ∧
      ((Selector.ofText? selector).isSome → 0 < Selector.weightOfTexts scope selector) := by
  obtain ⟨name, noBar⟩ := isScopeName_minimal scope minimal
  have has := (describes_extract theme).scopes_iff scope
  rw [← Theme.namesApart_iff noBar, ← info] at has
  refine ⟨fun apart => ?_, fun absent => ?_, fun selector apart => ⟨apart.names, apart.names.weight_pos name⟩⟩
  · have counted := has.2 apart
    exact ⟨info ▸ counted, mem_covered_iff.2 ⟨minimal, counted⟩, fun missing =>
      (mem_missing_iff.1 missing).2 counted⟩
  · exact mem_missing_iff.2 ⟨minimal, fun counted => absent (has.1 counted)⟩

end Coverage

namespace Sample

def selecting (selector : String) : Theme :=
  .modern ⟨none, Dict.empty, Dict.empty, [⟨some selector.toList, Dict.empty⟩]⟩

def selectingReport (selector : String) : Coverage.SchemeReport :=
  ⟨"Packages/User/a.sublime-color-scheme".toList, Dict.empty, Coverage.extract (selecting selector), false⟩

end Sample

theorem Coverage.counts_namesApart_sample :
    "keyword".toList ∈ minimalScopes ∧ (Sample.selecting "comment|string , keyword ").NamesApart "keyword".toList ∧
      "keyword".toList ∈ (extract (Sample.selecting "comment|string , keyword ")).scopes.toList ∧
      "keyword".toList ∉ (Sample.selectingReport "comment|string , keyword ").missingScopes := by
  have minimal : "keyword".toList ∈ minimalScopes := by decide +kernel
  have apart : (Sample.selecting "comment|string , keyword ").NamesApart "keyword".toList := by
    refine ⟨_, List.mem_singleton_self _, _, rfl, "comment|string ,".toList, " keyword ".toList, [],
      by decide +kernel, Text.forall_mem_of_all (by decide +kernel), fun c hc => ?_, by simp,
      by decide +kernel⟩
    have comma : "comment|string ,".toList.getLast? = some ',' := by decide +kernel
    simpa [comma] using hc.symm
  obtain ⟨declared, -, listed⟩ :=
    (counts_namesApart (r := Sample.selectingReport "comment|string , keyword ") rfl minimal).1 apart
  exact ⟨minimal, apart, declared, listed⟩

/-- Between bars a scope is scored, but the report lists it as missing. -/
theorem Coverage.missingScopes_bar :
    let selector := "comment|string"
    "string".toList ∈ minimalScopes ∧ Selector.Names selector.toList "string".toList ∧
      0 < Selector.weightOfTexts "string".toList selector.toList ∧
      "string".toList ∉ (extract (Sample.selecting selector)).scopes.toList ∧
      "string".toList ∈ (Sample.selectingReport selector).missingScopes := by
  refine ⟨by decide +kernel, ⟨"string".toList, by decide +kernel, by decide +kernel⟩, ?_⟩
  decide +kernel

end SchemeCheck
