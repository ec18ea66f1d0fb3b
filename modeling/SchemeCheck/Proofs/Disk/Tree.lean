import SchemeCheck.Proofs.Dict
import SchemeCheck.Proofs.Disk.Location
set_option autoImplicit false

/-!
Where paths lead on a disk whose files and folders lie in folders. A path that leads somewhere leads
there under its real path, too, and joined with names it leads down from there. Adding files and folders
keeps the disk such a tree.
-/

namespace SchemeCheck.Disk

/-- All that is there has names and lies in a folder. -/
structure IsTree (d : Disk) : Prop where
  named : ∀ location, d.isPresent location = true →
    ∃ names, (∀ n ∈ names, IsName n) ∧ location = descend [] names
  inFolder : ∀ folder name, '/' ∉ name → d.isPresent (child folder name) = true →
    d.isFolder folder = true

variable {d : Disk} {folder path location : Text}

@[simp] theorem isFolder_nil (d : Disk) : d.isFolder [] = true := rfl

theorem isPresent_iff : d.isPresent location = true ↔
    d.isFile location = true ∨ d.isFolder location = true := by
  rw [isPresent, Bool.or_eq_true]

theorem isFolder_iff : d.isFolder location = true ↔
    location = [] ∨ d.folders.contains location = true := by
  rw [isFolder, Bool.or_eq_true, List.isEmpty_iff]

theorem IsTree.isFolder_of_descend (tree : d.IsTree) {names : List Text} (h : ∀ n ∈ names, IsName n)
    (ne : names ≠ []) (here : d.isPresent (descend location names) = true) :
    d.isFolder location = true := by
  induction names generalizing location with
  | nil => exact absurd rfl ne
  | cons name names ih =>
    have free := (h name List.mem_cons_self).noSlash
    cases names with
    | nil => exact tree.inFolder _ _ free here
    | cons next names =>
      have later := ih (fun n hn => h n (List.mem_cons_of_mem _ hn)) (List.cons_ne_nil _ _) here
      exact tree.inFolder _ _ free (isPresent_iff.2 (.inr later))

theorem IsTree.isPresent_of_descend (tree : d.IsTree) {names : List Text}
    (h : ∀ n ∈ names, IsName n) (here : d.isPresent (descend location names) = true) :
    d.isPresent location = true := by
  by_cases ne : names = []
  · subst ne
    exact here
  · exact isPresent_iff.2 (.inr (tree.isFolder_of_descend h ne here))

theorem IsTree.isPresent_parent (tree : d.IsTree) (here : d.isPresent location = true) :
    d.isPresent (parent location) = true := by
  obtain ⟨names, h, rfl⟩ := tree.named location here
  rcases List.eq_nil_or_concat names with rfl | ⟨names, name, rfl⟩
  · exact isPresent_iff.2 (.inr rfl)
  · have free := (h name (by simp)).noSlash
    rw [List.concat_eq_append, descend_concat] at here ⊢
    rw [parent_child free]
    exact isPresent_iff.2 (.inr (tree.inFolder _ _ free here))

/-- A piece leads from a folder nowhere else, to the folder it lies in, or to what is there by its
name. -/
theorem step_cases {piece place : Text} (h : d.step location piece = .ok place) :
    d.isFolder location = true ∧
      ((piece = [] ∨ piece = ['.']) ∧ place = location ∨
        piece = ['.', '.'] ∧ place = parent location ∨
        piece ≠ [] ∧ place = child location piece ∧ d.isPresent place = true) := by
  unfold step at h
  split at h
  · simp at h
  · next isFolder =>
    refine ⟨by simpa using isFolder, ?_⟩
    split at h
    · next stays => exact .inl ⟨stays, (Except.ok.inj h).symm⟩
    · next moves =>
      split at h
      · next up => exact .inr (.inl ⟨up, (Except.ok.inj h).symm⟩)
      · split at h
        · simp at h
        · split at h
          · next there =>
            cases h
            exact .inr (.inr ⟨fun none => moves (.inl none), rfl, there⟩)
          · simp at h

theorem IsTree.isPresent_of_step (tree : d.IsTree) {piece place : Text}
    (h : d.step location piece = .ok place) : d.isPresent place = true := by
  obtain ⟨isFolder, ⟨-, rfl⟩ | ⟨-, rfl⟩ | ⟨-, -, there⟩⟩ := step_cases h
  · exact isPresent_iff.2 (.inr isFolder)
  · exact tree.isPresent_parent (isPresent_iff.2 (.inr isFolder))
  · exact there

theorem eq_of_step_nil {place : Text} (h : d.step location [] = .ok place) : place = location := by
  obtain ⟨-, ⟨-, stays⟩ | ⟨up, -⟩ | ⟨ne, -⟩⟩ := step_cases h
  · exact stays
  · simp at up
  · exact absurd rfl ne

theorem IsTree.isPresent_of_foldlM (tree : d.IsTree) {pieces : List Text} {place : Text}
    (h : pieces.foldlM d.step location = .ok place) :
    pieces = [] ∧ place = location ∨ d.isPresent place = true := by
  induction pieces generalizing location with
  | nil => exact .inl ⟨rfl, (Except.ok.inj h).symm⟩
  | cons piece pieces ih =>
    rw [List.foldlM_cons] at h
    cases hs : d.step location piece with
    | error fault => simp [hs, bind, Except.bind] at h
    | ok next =>
      rw [hs] at h
      rcases ih h with ⟨-, rfl⟩ | there
      · exact .inr (tree.isPresent_of_step hs)
      · exact .inr there

def startOf (folder path : Text) : Text := if path.head? = some '/' then [] else folder

theorem locate_eq_ok_iff {place : Text} : d.locate folder path = .ok place ↔
    path ≠ [] ∧ '\x00' ∉ path ∧
      (Text.split (· == '/') path).foldlM d.step (startOf folder path) = .ok place := by
  rw [locate, startOf]
  split
  · next none => simp [none]
  · next some =>
    split
    · next nul => simp_all
    · next free => simp_all

theorem IsTree.isPresent_of_locate (tree : d.IsTree) {place : Text}
    (h : d.locate folder path = .ok place) : d.isPresent place = true := by
  obtain ⟨-, -, walk⟩ := locate_eq_ok_iff.1 h
  exact (tree.isPresent_of_foldlM walk).resolve_left fun none =>
    Text.split_ne_nil _ _ none.1

theorem step_name {name : Text} (h : IsName name) (isFolder : d.isFolder location = true)
    (there : d.isPresent (child location name) = true) :
    d.step location name = .ok (child location name) := by
  have short := Nat.not_lt.2 h.short
  simp [step, isFolder, h.ne_nil, h.ne_dot, h.ne_dots, short, there]

theorem IsTree.foldlM_step_names (tree : d.IsTree) {names : List Text} (h : ∀ n ∈ names, IsName n)
    (there : d.isPresent (descend location names) = true) :
    names.foldlM d.step location = .ok (descend location names) := by
  induction names generalizing location with
  | nil => rfl
  | cons name names ih =>
    have rest : ∀ n ∈ names, IsName n := fun n hn => h n (List.mem_cons_of_mem _ hn)
    have isFolder := tree.isFolder_of_descend h (List.cons_ne_nil _ _) there
    have next : d.isPresent (child location name) = true := tree.isPresent_of_descend rest there
    rw [List.foldlM_cons, step_name (h name List.mem_cons_self) isFolder next]
    exact ih rest there

theorem IsTree.locate_pathOf (tree : d.IsTree) (here : d.isPresent location = true) (folder : Text) :
    d.locate folder (pathOf location) = .ok location := by
  obtain ⟨names, h, rfl⟩ := tree.named location here
  cases names with
  | nil => rfl
  | cons name names =>
    have ne : descend [] (name :: names) ≠ [] := descend_ne_nil [] (List.cons_ne_nil _ _)
    have absolute : startOf folder (descend [] (name :: names)) = [] := by
      rw [descend_cons, child_descend]
      rfl
    have nul : '\x00' ∉ descend [] (name :: names) :=
      not_mem_descend (by decide) (by simp) fun n hn => (h n hn).noNul
    rw [pathOf, if_neg ne]
    refine locate_eq_ok_iff.2 ⟨ne, nul, ?_⟩
    rw [absolute, split_descend [] fun n hn => (h n hn).noSlash]
    exact tree.foldlM_step_names h here

theorem IsTree.locate_canonical (tree : d.IsTree) (folder path : Text) :
    d.locate folder (d.canonical folder path) = d.locate folder path := by
  unfold canonical
  split
  · next place h => rw [tree.locate_pathOf (tree.isPresent_of_locate h), h]
  · rfl

theorem IsTree.hasFile_canonical (tree : d.IsTree) (folder path : Text) :
    d.hasFile folder (d.canonical folder path) = d.hasFile folder path := by
  rw [hasFile, tree.locate_canonical, hasFile]

theorem hasFile_iff : d.hasFile folder path = true ↔
    ∃ place, d.locate folder path = .ok place ∧ d.isFile place = true := by
  rw [hasFile]
  cases d.locate folder path <;> simp

theorem foldlM_step_concat {pieces : List Text} {place : Text}
    (h : pieces.foldlM d.step location = .ok place) (piece : Text) :
    (pieces ++ [piece]).foldlM d.step location = d.step place piece := by
  rw [List.foldlM_append, h]
  exact bind_pure (d.step place piece)

theorem foldlM_step_of_concat_nil {pieces : List Text} {place : Text}
    (h : (pieces ++ [[]]).foldlM d.step location = .ok place) :
    pieces.foldlM d.step location = .ok place := by
  cases hw : pieces.foldlM d.step location with
  | error fault => simp [List.foldlM_append, hw, bind, Except.bind] at h
  | ok before =>
    rw [foldlM_step_concat hw] at h
    rw [eq_of_step_nil h]

theorem locate_join {name : Text} (h : d.locate folder path = .ok location) (isName : IsName name) :
    d.locate folder (Path.join path name) = d.step location name := by
  obtain ⟨ne, nul, walk⟩ := locate_eq_ok_iff.1 h
  obtain ⟨rest, joined, chars⟩ := Path.exists_join ne isName.noSlash
  obtain ⟨pieces, cut, cutPath⟩ := Path.split_join ne isName.noSlash
  have start : startOf folder (Path.join path name) = startOf folder path := by
    rw [startOf, startOf, joined, List.head?_append_of_ne_nil _ ne]
  have before : pieces.foldlM d.step (startOf folder path) = .ok location := by
    rcases cutPath with cutPath | cutPath
    · rwa [cutPath] at walk
    · rw [cutPath] at walk
      exact foldlM_step_of_concat_nil walk
  have ne' : Path.join path name ≠ [] := by simp [joined, ne]
  have nul' : '\x00' ∉ Path.join path name := by
    rw [joined, List.mem_append, not_or]
    exact ⟨nul, fun inside => (chars _ inside).elim (by decide) isName.noNul⟩
  rw [← foldlM_step_concat before name, ← start, ← cut]
  simp [locate, startOf, ne', nul']

theorem IsTree.locate_join_names (tree : d.IsTree) {names : List Text} (h : ∀ n ∈ names, IsName n)
    (leads : d.locate folder path = .ok location)
    (there : d.isPresent (descend location names) = true) :
    d.locate folder (names.foldl Path.join path) = .ok (descend location names) := by
  induction names generalizing path location with
  | nil => exact leads
  | cons name names ih =>
    have rest : ∀ n ∈ names, IsName n := fun n hn => h n (List.mem_cons_of_mem _ hn)
    have isFolder := tree.isFolder_of_descend h (List.cons_ne_nil _ _) there
    have next : d.isPresent (child location name) = true := tree.isPresent_of_descend rest there
    have step := step_name (h name List.mem_cons_self) isFolder next
    exact ih rest ((locate_join leads (h name List.mem_cons_self)).trans step) there

theorem isTree_empty : empty.IsTree where
  named location here := by
    have root : location = [] := by
      simpa [empty, isPresent, isFile, isFolder, Dict.contains] using here
    exact ⟨[], by simp, root⟩
  inFolder folder name _ here := by
    simp [empty, isPresent, isFile, isFolder, Dict.contains, child] at here

theorem isFolder_addFolder {names : List Text} (h : ∀ n ∈ names, '/' ∉ n) :
    (d.addFolder (descend [] names)).isFolder location = true ↔
      d.isFolder location = true ∨ ∃ before, before <+: names ∧ location = descend [] before := by
  rw [isFolder_iff, isFolder_iff, ← Dict.mem_keys_iff, ← Dict.mem_keys_iff, addFolder,
    ← TextSet.toList, TextSet.mem_toList_insertAll, mem_ancestry_descend h]
  constructor
  · rintro (root | ⟨before, -, start, rfl⟩ | old)
    · exact .inl (.inl root)
    · exact .inr ⟨before, start, rfl⟩
    · exact .inl (.inr old)
  · rintro ((root | old) | ⟨before, start, rfl⟩)
    · exact .inl root
    · exact .inr (.inr old)
    · by_cases ne : before = []
      · exact .inl (by rw [ne, descend_nil])
      · exact .inr (.inl ⟨before, ne, start, rfl⟩)

theorem IsTree.addFolder (tree : d.IsTree) {names : List Text} (h : ∀ n ∈ names, IsName n) :
    (d.addFolder (descend [] names)).IsTree := by
  have free : ∀ n ∈ names, '/' ∉ n := fun n hn => (h n hn).noSlash
  have present : ∀ location, (d.addFolder (descend [] names)).isPresent location = true ↔
      d.isPresent location = true ∨ ∃ before, before <+: names ∧ location = descend [] before := by
    intro location
    rw [isPresent_iff, isPresent_iff, isFolder_addFolder free, or_assoc]
    rfl
  constructor
  · intro location here
    rcases (present location).1 here with old | ⟨before, start, rfl⟩
    · exact tree.named location old
    · exact ⟨before, fun n hn => h n (start.subset hn), rfl⟩
  · intro folder name slash here
    rw [isFolder_addFolder free]
    rcases (present _).1 here with old | ⟨before, start, same⟩
    · exact .inl (tree.inFolder folder name slash old)
    · rcases List.eq_nil_or_concat before with rfl | ⟨before, last, rfl⟩
      · exact absurd same (child_ne_nil folder name)
      · rw [List.concat_eq_append] at start same
        have lastFree := free last (start.subset (by simp))
        rw [descend_concat] at same
        exact .inr ⟨before, (List.prefix_append _ _).trans start,
          folder_eq_of_child_eq slash lastFree same⟩

theorem IsTree.addFile (tree : d.IsTree) {names : List Text} {name : Text}
    (h : ∀ n ∈ names ++ [name], IsName n) (content : FileContent) :
    (d.addFile (descend [] (names ++ [name])) content).IsTree := by
  have before : ∀ n ∈ names, IsName n := fun n hn => h n (List.mem_append_left _ hn)
  have slash := (h name (by simp)).noSlash
  have folders : (d.addFile (descend [] (names ++ [name])) content) =
      { d.addFolder (descend [] names) with
        files := d.files.insert (child (descend [] names) name) content } := by
    rw [Disk.addFile, descend_concat, parent_child slash]
  have folderTree := tree.addFolder before
  have isFolder : ∀ location, (d.addFile (descend [] (names ++ [name])) content).isFolder location =
      (d.addFolder (descend [] names)).isFolder location := by
    rw [folders]
    exact fun _ => rfl
  have present : ∀ location,
      (d.addFile (descend [] (names ++ [name])) content).isPresent location = true ↔
        location = child (descend [] names) name ∨
          (d.addFolder (descend [] names)).isPresent location = true := by
    intro location
    rw [isPresent_iff, isPresent_iff, isFolder, ← or_assoc]
    refine or_congr_left ?_
    rw [folders]
    simp only [isFile, Dict.contains, Dict.get?_insert]
    split <;> simp_all [Disk.addFolder]
  constructor
  · intro location here
    rcases (present location).1 here with rfl | old
    · exact ⟨names ++ [name], h, (descend_concat _ _ _).symm⟩
    · exact folderTree.named location old
  · intro folder other free here
    rw [isFolder]
    rcases (present _).1 here with same | old
    · exact (isFolder_addFolder fun n hn => (before n hn).noSlash).2
        (.inr ⟨names, List.prefix_refl _, folder_eq_of_child_eq free slash same⟩)
    · exact folderTree.inFolder folder other free old

end SchemeCheck.Disk
