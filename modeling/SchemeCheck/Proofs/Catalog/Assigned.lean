import SchemeCheck.Disk.Host
import SchemeCheck.Proofs.Dict
import SchemeCheck.Proofs.Disk.Find
import SchemeCheck.Proofs.List
set_option autoImplicit false

/-!
The grammar that a catalog gives for a resource. It goes from the resource to a name and from the name
to the last grammar that has it, so a file whose name no other file declares is rendered with its own
grammar, and of several files with one name the last renders them all.
-/

namespace SchemeCheck

namespace Catalog

/-- `e` is the last of the packaged grammars with this name. -/
def LastNamed (packaged : List (Text × Grammar)) (name : Text) (e : Text × Grammar) : Prop :=
  ∃ before after, packaged = before ++ e :: after ∧ e.2.name = name ∧
    ∀ other ∈ after, other.2.name ≠ name

variable {packaged : List (Text × Grammar)} {resource name : Text} {g : Grammar} {e : Text × Grammar}

theorem lastNamed_iff :
    LastNamed packaged name e ↔ packaged.reverse.find? (fun e => e.2.name == name) = some e := by
  rw [List.find?_eq_some_iff_append]
  constructor
  · intro ⟨before, after, split, named, later⟩
    exact ⟨by simpa using named, after.reverse, before.reverse, by simp [split], by simpa using later⟩
  · intro ⟨named, after, before, split, later⟩
    refine ⟨before.reverse, after.reverse, ?_, by simpa using named, by simpa using later⟩
    simpa using congrArg List.reverse split

theorem exists_lastNamed (h : (resource, g) ∈ packaged) : ∃ e, LastNamed packaged g.name e := by
  cases hfind : packaged.reverse.find? fun e => e.2.name == g.name with
  | none => simpa using List.find?_eq_none.1 hfind (resource, g) (List.mem_reverse.2 h)
  | some e => exact ⟨e, lastNamed_iff.2 hfind⟩

theorem LastNamed.mem (h : LastNamed packaged name e) : e ∈ packaged ∧ e.2.name = name := by
  obtain ⟨before, after, rfl, named, -⟩ := h
  exact ⟨by simp, named⟩

theorem grammarNamed?_of_lastNamed (h : LastNamed packaged name e) :
    (ofPackaged packaged).grammarNamed? name = some e.2 := by
  have found : (packaged.map (·.2)).reverse.find? (fun g => g.name == name) = some e.2 := by
    rw [← List.map_reverse, List.find?_map]
    exact congrArg _ (lastNamed_iff.1 h)
  unfold grammarNamed? ofPackaged
  simp only [List.reverse_append, List.find?_append, found, Option.some_or]

theorem get?_resources (nodup : (packaged.map (·.1)).Nodup) (h : (resource, g) ∈ packaged) :
    (ofPackaged packaged).resources.get? resource = some g.name := by
  obtain ⟨before, after, rfl⟩ := List.append_of_mem h
  have later : ∀ e ∈ after, resource ≠ e.1 := by
    rw [List.map_append, List.map_cons] at nodup
    have fresh := (List.nodup_cons.1 (List.nodup_append.1 nodup).2.1).1
    intro e he same
    exact fresh (List.mem_map.2 ⟨e, he, same.symm⟩)
  have absent : (after.map fun e => (e.1, e.2.name)).reverse.lookup resource = none := by
    rw [List.lookup_eq_none_iff]
    intro e he
    obtain ⟨e', he', rfl⟩ := List.mem_map.1 (List.mem_reverse.1 he)
    simpa using later e' he'
  unfold ofPackaged
  simp [Dict.get?_ofList, List.lookup_append, absent]

theorem grammarOf?_of_lastNamed (nodup : (packaged.map (·.1)).Nodup) (h : (resource, g) ∈ packaged)
    (last : LastNamed packaged g.name e) : (ofPackaged packaged).grammarOf? resource = some e.2 := by
  rw [grammarOf?, get?_resources nodup h, Option.bind_some, grammarNamed?_of_lastNamed last]

end Catalog

namespace BufferView

/-- Whatever content the view takes is rendered with this grammar. -/
def RendersWith (v : BufferView) (g : Grammar) : Prop :=
  ∀ content, (v.setContent content).1 = (g.render content).map (fun _ => ()) ∧
    ∀ buffer, g.render content = .ok buffer → (v.setContent content).2.buffer = buffer

variable {v : BufferView} {g : Grammar} {file : Text}

theorem rendersWith (h : v.grammar = .ok g) : v.RendersWith g := by
  intro content
  unfold setContent
  rw [h, Except.bind]
  cases g.render content <;> simp [Except.map]

theorem setContent_kept (v : BufferView) (content : Text) :
    (v.setContent content).2.syntaxFile = v.syntaxFile ∧
      (v.setContent content).2.catalog = v.catalog ∧ (v.setContent content).2.score = v.score := by
  unfold setContent
  split <;> exact ⟨rfl, rfl, rfl⟩

theorem rendersWith_assignSyntax (h : v.catalog.grammarOf? file = some g) :
    (v.assignSyntax file).1 = (g.render v.buffer.content).map (fun _ => ()) ∧
      (v.assignSyntax file).2.RendersWith g := by
  have assigned : v.catalog.assigned file = .ok g := by rw [Catalog.assigned, h]
  have given : { v with syntaxFile := some file }.grammar = .ok g := assigned
  have again : v.assignSyntax file = { v with syntaxFile := some file }.setContent v.buffer.content := by
    rw [assignSyntax, assigned]
  obtain ⟨syntaxFile, catalog, -⟩ := setContent_kept { v with syntaxFile := some file } v.buffer.content
  rw [again]
  refine ⟨(rendersWith given v.buffer.content).1, rendersWith ?_⟩
  rw [grammar, syntaxFile, catalog]
  exact assigned

end BufferView

namespace Store

theorem mem_grammars_iff {s : Store} {resource : Text} {g : Grammar} :
    (resource, g) ∈ s.grammars ↔ resource ∈ s.find "*.sublime-syntax".toList ∧
      ∃ content, s.load resource = .ok content ∧ Grammar.ofDocument? content = some g := by
  simp only [grammars, List.mem_filterMap]
  constructor
  · intro ⟨file, found, packaged⟩
    split at packaged
    · next content load =>
      obtain ⟨g', read, same⟩ := Option.map_eq_some_iff.1 packaged
      cases same
      exact ⟨found, content, load, read⟩
    · contradiction
  · intro ⟨found, content, load, read⟩
    exact ⟨resource, found, by simp [load, read]⟩

theorem nodup_grammars (s : Store) : (s.grammars.map (·.1)).Nodup := by
  refine List.nodup_map_filterMap (fun file e packaged => ?_)
    ((Text.nodup_of_ascending s.resources_ascending).filter _)
  split at packaged
  · obtain ⟨g, -, rfl⟩ := Option.map_eq_some_iff.1 packaged
    rfl
  · contradiction

/-- A file of the packages that defines a grammar has the last of their grammars with this name in the
catalog of the host. -/
theorem grammarOf?_ofStore {s : Store} {build : Nat} {platform resource content : Text} {g : Grammar}
    (found : resource ∈ s.find "*.sublime-syntax".toList) (load : s.load resource = .ok content)
    (read : Grammar.ofDocument? content = some g) :
    ∃ e, Catalog.LastNamed s.grammars g.name e ∧
      (DiskHost.ofStore s build platform).catalog.grammarOf? resource = some e.2 := by
  have packaged := mem_grammars_iff.2 ⟨found, content, load, read⟩
  obtain ⟨e, last⟩ := Catalog.exists_lastNamed packaged
  exact ⟨e, last, Catalog.grammarOf?_of_lastNamed s.nodup_grammars packaged last⟩

end Store

/-- A resource is rendered with the last grammar that has the name of its own: with its own one, if no
other file declares that name. -/
theorem Catalog.grammarOf?_ofPackaged {packaged : List (Text × Grammar)} {resource : Text} {g : Grammar}
    (nodup : (packaged.map (·.1)).Nodup) (h : (resource, g) ∈ packaged) :
    ∃ e, LastNamed packaged g.name e ∧
      (ofPackaged packaged).grammarOf? resource = some e.2 ∧
      (∀ v : BufferView, v.catalog = ofPackaged packaged →
        (v.assignSyntax resource).1 = (e.2.render v.buffer.content).map (fun _ => ()) ∧
        (v.assignSyntax resource).2.RendersWith e.2) ∧
      ((∀ other ∈ packaged, other.2.name = g.name → other = (resource, g)) → e = (resource, g)) := by
  obtain ⟨e, last⟩ := exists_lastNamed h
  have found := grammarOf?_of_lastNamed nodup h last
  refine ⟨e, last, found, ?_, ?_⟩
  · intro v hv
    exact BufferView.rendersWith_assignSyntax (hv ▸ found)
  · intro unique
    exact unique e last.mem.1 last.mem.2

namespace Sample

def fileA : Text := "Packages/A/K.sublime-syntax".toList

def fileB : Text := "Packages/B/K.sublime-syntax".toList

def twoPackaged (nameA nameB : Text) : List (Text × Grammar) :=
  [(fileA, Grammar.plain nameA "source.a".toList), (fileB, Grammar.plain nameB "source.b".toList)]

end Sample

theorem Catalog.grammarOf?_ofPackaged_sample :
    ((Sample.twoPackaged ['K'] ['L']).map (·.1)).Nodup ∧
      (Catalog.ofPackaged (Sample.twoPackaged ['K'] ['L'])).grammarOf? Sample.fileA =
        some (Grammar.plain ['K'] "source.a".toList) := by
  have nodup : ((Sample.twoPackaged ['K'] ['L']).map (·.1)).Nodup := by decide
  obtain ⟨e, -, found, -, own⟩ := Catalog.grammarOf?_ofPackaged nodup List.mem_cons_self
  have unique : ∀ other ∈ Sample.twoPackaged ['K'] ['L'], other.2.name = ['K'] →
      other = (Sample.fileA, Grammar.plain ['K'] "source.a".toList) := by
    simp [Sample.twoPackaged, Grammar.plain]
  exact ⟨nodup, by rw [found, own unique]⟩

/-- Of two files with one name, which no bundled syntax has, the first is rendered with the grammar of
the second. -/
theorem Catalog.grammarOf?_of_sameName :
    (∀ g ∈ Catalog.bundledGrammars, g.name ≠ ['K']) ∧
      ((Catalog.ofPackaged (Sample.twoPackaged ['K'] ['K'])).grammarOf? Sample.fileA).map (·.scope) =
        some "source.b".toList :=
  ⟨by decide +kernel, by decide +kernel⟩

end SchemeCheck
