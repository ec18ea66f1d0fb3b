import SchemeCheck.Disk.Host
import SchemeCheck.Proofs.Dict
import SchemeCheck.Proofs.Fixture.Run
import SchemeCheck.Proofs.Glob
import SchemeCheck.Proofs.Text.Cut
set_option autoImplicit false

/-!
Names as searches. A host that looks its resources up by their base names finds those of a literal name
and no others, so the syntax and the color scheme of a fixture are those of the names in its header. A
name with a character that means something in patterns may find others.
-/

namespace SchemeCheck

namespace Resource

def named (resources : List Text) (name : Text) : List Text :=
  resources.filter fun r => baseName r = name

theorem not_mem_baseName (r : Text) : '/' ∉ baseName r := by
  intro h
  have := List.mem_takeWhile_imp (List.mem_reverse.1 h)
  simp at this

theorem exists_rooted (name : Text) : ∃ rest, rooted name = packagesRoot ++ rest := by
  unfold rooted
  split
  · next h =>
    obtain ⟨rest, hrest⟩ := Option.isSome_iff_exists.1 h
    exact ⟨rest, Text.after?_eq_some_iff.1 hrest⟩
  · exact ⟨name, rfl⟩

theorem rooted_rooted (name : Text) : rooted (rooted name) = rooted name := by
  obtain ⟨rest, h⟩ := exists_rooted name
  rw [h, rooted, if_pos (Text.startsWith_append packagesRoot rest)]

theorem rooted_of_not_mem {name : Text} (h : '/' ∉ name) : rooted name = packagesRoot ++ name := by
  unfold rooted
  split
  · next start =>
    obtain ⟨rest, hrest⟩ := Option.isSome_iff_exists.1 start
    rw [Text.after?_eq_some_iff.1 hrest] at h
    exact absurd (List.mem_append_left _ (by decide)) h
  · rfl

def IsBare (scheme : Text) : Prop := isModern scheme = true ∧ '/' ∉ scheme

instance (scheme : Text) : Decidable (IsBare scheme) := inferInstanceAs (Decidable (_ ∧ _))

theorem normalizeScheme_bare {scheme : Text} (h : IsBare scheme) : normalizeScheme scheme = scheme := by
  obtain ⟨modern, slash⟩ := h
  simp [normalizeScheme, modern, slash]

theorem normalizeScheme_not_bare {scheme : Text} (h : ¬ IsBare scheme) :
    normalizeScheme scheme = rooted scheme := by
  unfold IsBare at h
  unfold normalizeScheme
  rw [if_neg (by simpa using h)]

/-- `path` is the resource that a header means by `scheme`. -/
structure IsMeantBy (resources : List Text) (scheme path : Text) : Prop where
  rooted_eq : ¬ IsBare scheme → path = rooted scheme
  only_eq : IsBare scheme → ∀ r, named resources scheme = [r] → path = r
  other_eq : IsBare scheme → (∀ r, named resources scheme ≠ [r]) → path = packagesRoot ++ scheme

end Resource

namespace Host

/-- The host has these resources and searches them by their base names. -/
def Holds (host : Host) (resources : List Text) : Prop :=
  ∀ pattern, host.find pattern =
    resources.filter fun r => Glob.isMatch pattern (Resource.baseName r)

def themeResource (host : Host) (name : Text) : Text := schemePath name (host.find name)

def readTheme (host : Host) (path : Text) : Except ThemeError Theme :=
  match host.load path with
  | .error e => .error (.resource e)
  | .ok content => Theme.ofDocument path content

variable {host : Host} {resources : List Text}

theorem value_loadTheme (host : Host) (name : Text) :
    (host.loadTheme name).value = host.readTheme (host.themeResource name) := loadTheme_value host name

theorem calls_loadTheme (host : Host) (name : Text) :
    (host.loadTheme name).calls = [.find name, .load (host.themeResource name)] := by
  simp only [loadTheme, Changing.loadTheme, Changing.calls_bind_always, Changing.value_find,
    Changing.calls_find, Changing.value_load, Changing.calls_load, Hosts.always_apply, themeResource]
  cases host.load (schemePath name (host.find name)) <;> rfl

theorem Holds.find_literal (h : host.Holds resources) {name : Text}
    (literal : ∀ c ∈ name, Glob.IsLiteral c) : host.find name = Resource.named resources name := by
  rw [h, Resource.named]
  congr 1
  funext r
  have := Glob.isMatch_literal literal (Resource.baseName r)
  rw [Bool.eq_iff_iff, this, decide_eq_true_eq]

/-- No base name has a slash, so that a search for a rooted name finds nothing. -/
theorem Holds.find_rooted (h : host.Holds resources) (name : Text) :
    host.find (Resource.rooted name) = [] := by
  obtain ⟨rest, hrest⟩ := Resource.exists_rooted name
  rw [h, hrest, List.filter_eq_nil_iff]
  intro r _ hmatch
  have literal : ∀ c ∈ Resource.packagesRoot, Glob.IsLiteral c := Text.forall_mem_of_all (by decide)
  obtain ⟨rest', hname⟩ := Glob.exists_append_of_isMatch literal hmatch
  have slash : '/' ∈ Resource.baseName r := by
    rw [hname]
    exact List.mem_append_left _ (by decide)
  exact Resource.not_mem_baseName r slash

theorem Holds.themeResource_rooted (h : host.Holds resources) (name : Text) :
    host.themeResource (Resource.rooted name) = Resource.rooted name := by
  rw [themeResource, h.find_rooted, schemePath, Resource.rooted_rooted]
  simp

theorem Holds.isMeantBy (h : host.Holds resources) {scheme : Text}
    (literal : Resource.IsBare scheme → ∀ c ∈ scheme, Glob.IsLiteral c) :
    Resource.IsMeantBy resources scheme (host.themeResource (Resource.normalizeScheme scheme)) := by
  by_cases bare : Resource.IsBare scheme
  · have found := h.find_literal (literal bare)
    have rooted := Resource.rooted_of_not_mem bare.2
    rw [Resource.normalizeScheme_bare bare, themeResource, found]
    refine ⟨fun other => absurd bare other, fun _ r only => ?_, fun _ several => ?_⟩
    · rw [only, schemePath]
    · rw [← rooted]
      unfold schemePath
      split
      · next r only => exact absurd only (several r)
      · rfl
  · rw [Resource.normalizeScheme_not_bare bare, h.themeResource_rooted]
    exact ⟨fun _ => rfl, fun other => absurd other bare, fun other => absurd other bare⟩

theorem literal_suffixes : ∀ suffix ∈ Resource.syntaxSuffixes, ∀ c ∈ suffix, Glob.IsLiteral c := by
  have all : ∀ suffix ∈ Resource.syntaxSuffixes, (suffix.all fun c => Glob.IsLiteral c) = true := by decide
  exact fun suffix hsuffix => Text.forall_mem_of_all (all suffix hsuffix)

theorem Holds.find_syntax (h : host.Holds resources) {name suffix : Text}
    (literal : ∀ c ∈ name, Glob.IsLiteral c) (hsuffix : suffix ∈ Resource.syntaxSuffixes) :
    host.find (name ++ suffix) = Resource.named resources (name ++ suffix) := by
  refine h.find_literal fun c hc => ?_
  rcases List.mem_append.1 hc with hc | hc
  · exact literal c hc
  · exact literal_suffixes suffix hsuffix c hc

/-- A host finds the syntax of a literal name under the first suffix that a resource of this name has,
and it reads a color scheme from the resource that the header means by it. -/
theorem resolves_names (holds : host.Holds resources) :
    (∀ name : Text, (∀ c ∈ name, Glob.IsLiteral c) →
      ((∀ suffix ∈ Resource.syntaxSuffixes, Resource.named resources (name ++ suffix) = []) →
        (host.resolveSyntax name).value = .error (.syntaxNotFound name)) ∧
      ∀ before suffix after, Resource.syntaxSuffixes = before ++ suffix :: after →
        (∀ s ∈ before, Resource.named resources (name ++ s) = []) →
        (∀ file, Resource.named resources (name ++ suffix) = [file] →
          (host.resolveSyntax name).value = .ok file) ∧
        (1 < (Resource.named resources (name ++ suffix)).length →
          (host.resolveSyntax name).value =
            .error (.ambiguousSyntax (Resource.named resources (name ++ suffix))))) ∧
    ∀ header : Header,
      (Resource.IsBare header.colorScheme → ∀ c ∈ header.colorScheme, Glob.IsLiteral c) →
      ∃ path, Resource.IsMeantBy resources header.colorScheme path ∧
        (host.loadTheme header.schemePath).calls = [.find header.schemePath, .load path] ∧
        (host.loadTheme header.schemePath).value = host.readTheme path ∧
        ∀ test content syntaxFile theme view,
          host.Rendering test content header syntaxFile theme view → host.readTheme path = .ok theme := by
  refine ⟨fun name literal => ⟨fun nothing => ?_, fun before suffix after split none => ?_⟩,
    fun header literal => ?_⟩
  · refine resolveSyntax_nothing fun suffix hsuffix => ?_
    rw [holds.find_syntax literal hsuffix, nothing suffix hsuffix]
  · have inside : suffix ∈ Resource.syntaxSuffixes := by simp [split]
    have found := holds.find_syntax literal inside
    have earlier : host.NothingFound name before := by
      intro s hs
      rw [holds.find_syntax literal (by simp [split, hs]), none s hs]
    have first : Resource.named resources (name ++ suffix) ≠ [] →
        (host.resolveSyntax name).value = onlyFound (Resource.named resources (name ++ suffix)) :=
      fun ne => resolveSyntax_found ⟨before, suffix, after, split, earlier, found, ne⟩
    refine ⟨fun file only => ?_, fun several => ?_⟩
    · rw [first (by simp [only]), only, onlyFound]
    · rw [first (List.ne_nil_of_length_pos (by omega)), onlyFound_several several]
  · refine ⟨host.themeResource header.schemePath, holds.isMeantBy literal, calls_loadTheme ..,
      value_loadTheme .., fun test content syntaxFile theme view h => ?_⟩
    rw [← value_loadTheme, h.theme_eq]

end Host

theorem MemoryHost.holds_keys (m : MemoryHost) : m.toHost.Holds m.files.keys := fun _ => rfl

theorem DiskHost.holds (h : DiskHost) :
    h.toHost.Holds (TextSet.ofList (h.store.resources ++ h.catalog.bundled)).toList := by
  have ascending : ∀ s : TextSet, s.toList.Pairwise fun a b => id a < id b :=
    TextSet.ascending_toList
  intro pattern
  refine eq_of_ascending (ascending _) ((ascending _).filter _) fun r => ?_
  have found : r ∈ h.toHost.find pattern ↔
      r ∈ h.store.find pattern ∨ r ∈ h.catalog.findBundled pattern :=
    (TextSet.mem_toList_ofList _ r).trans List.mem_append
  rw [found, List.mem_filter, TextSet.mem_toList_ofList, List.mem_append, Store.find,
    Catalog.findBundled, List.mem_filter, List.mem_filter, or_and_right]

namespace Sample

def questionable : MemoryHost :=
  { memory [] with
    files := (Dict.empty.insert "Packages/A?.sublime-syntax".toList []).insert
      "Packages/AB.sublime-syntax".toList [] }

end Sample

theorem Host.resolves_names_sample :
    (Sample.memory Sample.content).toHost.Holds (Sample.memory Sample.content).files.keys ∧
      ((Sample.memory Sample.content).toHost.resolveSyntax ['X']).value = .ok Sample.syntaxFile ∧
      ((Sample.memory Sample.content).toHost.loadTheme Sample.header.schemePath).value =
        (Sample.memory Sample.content).toHost.readTheme Sample.scheme := by
  have holds := (Sample.memory Sample.content).holds_keys
  obtain ⟨syntaxes, schemes⟩ := Host.resolves_names holds
  obtain ⟨only, -⟩ := (syntaxes ['X'] (Text.forall_mem_of_all (by decide))).2 [] _ _ rfl (by simp)
  obtain ⟨path, meant, -, value, -⟩ := schemes Sample.header fun _ =>
    Text.forall_mem_of_all (by decide)
  have here : path = Sample.scheme := meant.only_eq (by decide +kernel) _ (by decide +kernel)
  exact ⟨holds, only _ (by decide +kernel), by rw [value, here]⟩

/-- A name with a question mark finds more than the resource of this name. -/
theorem Host.resolveSyntax_pattern :
    Sample.questionable.toHost.Holds Sample.questionable.files.keys ∧
      Resource.named Sample.questionable.files.keys "A?.sublime-syntax".toList =
        ["Packages/A?.sublime-syntax".toList] ∧
      (Sample.questionable.toHost.resolveSyntax "A?".toList).value =
        .error (.ambiguousSyntax
          ["Packages/A?.sublime-syntax".toList, "Packages/AB.sublime-syntax".toList]) :=
  ⟨Sample.questionable.holds_keys, by decide +kernel, by decide +kernel⟩

end SchemeCheck
