import ContextualQuery.Proofs.Path.Ancestors
import ContextualQuery.Settings.Discovery

/-!
# Which settings files apply

Settings files are looked for from the working directory up. A root ends the search, and what lies
beyond it has no say, whatever it is.

* `filesUpToRoot_eq`: the search gives the files up to the first root;
* `filesUpToRoot_congr`: it looks no further than that root;
* `discover_isolated`: which files apply, and that nothing beyond a root matters.
-/
namespace ContextualQuery.Settings

/-- The elements up to the first for which `p` holds, that one included. -/
def through {α : Type} (p : α → Bool) (xs : List α) : List α :=
  xs.takeWhile (!p ·) ++ (xs.find? p).toList

def existing (tree : FileTree) (paths : List String) : List String :=
  paths.filter fun path => (tree path).isFile

theorem through_cons {α : Type} (p : α → Bool) (x : α) (xs : List α) :
    through p (x :: xs) = if p x then [x] else x :: through p xs := by
  cases h : p x <;> simp [through, h]

theorem through_sublist {α : Type} (p : α → Bool) (xs : List α) : (through p xs).Sublist xs := by
  induction xs with
  | nil => exact .slnil
  | cons x xs ih =>
    rw [through_cons]
    split
    · exact (List.nil_sublist xs).cons_cons x
    · exact ih.cons_cons x

/-- The search gives the files up to the first root, and tells whether it met one. -/
theorem filesUpToRoot_eq (tree : FileTree) (paths : List String) :
    filesUpToRoot tree paths =
      (through (isRoot tree) (existing tree paths), (existing tree paths).any (isRoot tree)) := by
  induction paths with
  | nil => rfl
  | cons path paths ih =>
    rw [filesUpToRoot, existing, List.filter_cons, ← existing, ih]
    cases (tree path).isFile with
    | false => rfl
    | true => cases root : isRoot tree path <;> simp [through_cons, root]

/-- Only a file says that it is a root. -/
theorem isFile_of_isRoot {tree : FileTree} {path : String} (h : isRoot tree path = true) :
    (tree path).isFile = true := by
  unfold isRoot readFile at h
  cases entry : tree path <;> simp [entry, FileEntry.read, FileEntry.isFile] at h ⊢

theorem isRoot_congr {tree tree' : FileTree} {path : String} (same : tree' path = tree path) :
    isRoot tree' path = isRoot tree path := by
  unfold isRoot readFile
  rw [same]

/-- Two trees that agree up to a root have the same files up to it, and these are among the paths
where they agree. -/
theorem filesUpToRoot_congr {tree tree' : FileTree} {paths : List String}
    (rooted : ∃ path ∈ paths, isRoot tree path = true)
    (same : ∀ path ∈ through (isRoot tree) paths, tree' path = tree path) :
    ∃ found, filesUpToRoot tree paths = (found, true) ∧ filesUpToRoot tree' paths = (found, true) ∧
      ∀ path ∈ found, tree' path = tree path := by
  induction paths with
  | nil => simp at rooted
  | cons path paths ih =>
    rw [through_cons] at same
    rw [filesUpToRoot, filesUpToRoot]
    by_cases root : isRoot tree path = true
    · have here : tree' path = tree path := same path (by simp [root])
      refine ⟨[path], ?_, ?_, by simpa using here⟩
      · rw [if_pos (isFile_of_isRoot root), if_pos root]
      · rw [here, if_pos (isFile_of_isRoot root), if_pos (by rwa [isRoot_congr here])]
    · rw [if_neg root, List.forall_mem_cons] at same
      obtain ⟨here, above⟩ := same
      have later : ∃ path ∈ paths, isRoot tree path = true := by simpa [root] using rooted
      obtain ⟨found, files, files', agree⟩ := ih later above
      have root' : ¬ isRoot tree' path = true := by rwa [isRoot_congr here]
      rw [here, files, files', if_neg root, if_neg root']
      cases (tree path).isFile with
      | false => exact ⟨found, rfl, rfl, agree⟩
      | true => exact ⟨path :: found, rfl, rfl, List.forall_mem_cons.mpr ⟨here, agree⟩⟩

theorem readFile_congr {tree tree' : FileTree} {path : String} (same : tree' path = tree path) :
    readFile tree' path = readFile tree path := by
  unfold readFile
  rw [same]

theorem loadFiles_congr {tree tree' : FileTree} {paths : List String}
    (same : ∀ path ∈ paths, tree' path = tree path) :
    loadFiles tree' paths = loadFiles tree paths := by
  have read : paths.mapM (readFile tree') = paths.mapM (readFile tree) := by
    induction paths with
    | nil => rfl
    | cons path paths ih =>
      obtain ⟨here, rest⟩ := List.forall_mem_cons.mp same
      rw [List.mapM_cons, List.mapM_cons, readFile_congr here, ih rest]
  rw [loadFiles, loadFiles, read]

/-- The candidates are the settings files of the directory and of all directories above it. -/
theorem parts_candidates {cwd : String} (absolute : Path.IsAbsolute cwd) :
    (candidates cwd).map Path.parts =
      (Path.beginnings (Path.parts cwd)).map (· ++ [fileName]) := by
  obtain ⟨above, all⟩ := Path.parts_ancestors absolute
  rw [candidates, ← above, List.map_map, List.map_map]
  exact List.map_congr_left fun dir hdir => Path.parts_join (all dir hdir) (by decide)

/-- No two candidates are the same path. -/
theorem candidates_apart {cwd : String} (absolute : Path.IsAbsolute cwd) :
    (candidates cwd).Pairwise fun a b => Path.same a b = false := by
  have lengths : ((candidates cwd).map Path.parts).Pairwise fun a b => b.length < a.length := by
    rw [parts_candidates absolute, List.pairwise_map]
    exact (Path.beginnings_pairwise _).imp fun {a b} shorter => by simpa using shorter
  rw [List.pairwise_map] at lengths
  refine lengths.imp fun {a b} shorter => ?_
  have different : Path.parts a ≠ Path.parts b := by
    intro same
    rw [same] at shorter
    exact Nat.lt_irrefl _ shorter
  simpa [Path.same] using different

/-- The files that apply: those up to the first root, or all and then the file in the home
directory, unless it is listed already. -/
theorem discover_eq (tree : FileTree) (home : Option String) (cwd : String) :
    let files := existing tree (candidates cwd)
    let found := through (isRoot tree) files
    discover tree home cwd = found ++
      (if files.any (isRoot tree) then []
      else (existing tree (home.map globalPath).toList).filter fun path =>
        !found.any (Path.same path)) := by
  simp only [discover, filesUpToRoot_eq]
  generalize through (isRoot tree) (existing tree (candidates cwd)) = found
  cases (existing tree (candidates cwd)).any (isRoot tree) with
  | true => exact (List.append_nil found).symm
  | false =>
    cases home with
    | none => exact (List.append_nil found).symm
    | some dir =>
      simp only [Option.map_some, Option.toList_some, existing, List.filter_cons, List.filter_nil]
      cases (tree (globalPath dir)).isFile <;> cases listed : found.any (Path.same (globalPath dir))
        <;> simp [listed]

theorem discover_apart {cwd : String} (absolute : Path.IsAbsolute cwd) (tree : FileTree)
    (home : Option String) :
    (discover tree home cwd).Pairwise fun a b => Path.same a b = false := by
  rw [discover_eq]
  refine List.pairwise_append.mpr ⟨?_, ?_, ?_⟩
  · exact ((candidates_apart absolute).sublist List.filter_sublist).sublist (through_sublist _ _)
  · split
    · exact .nil
    · cases home with
      | none => exact .nil
      | some dir =>
        refine (List.pairwise_singleton _ (globalPath dir)).sublist ?_
        exact List.filter_sublist.trans List.filter_sublist
  · intro a ha b hb
    split at hb
    · simp at hb
    · have listed := (List.mem_filter.mp hb).2
      rw [Bool.not_eq_true', List.any_eq_false] at listed
      rw [Path.same_comm]
      simpa using listed a ha

/-- The candidates are the settings files of the working directory and of all directories above it,
closest first. Those that exist apply, up to the first root and without repetition; without a root
the file in the home directory comes last, if it exists and is not among them. So trees that agree
on the candidates up to a root, that one included, give the same files, and the same settings or the
same error. -/
theorem discover_isolated {cwd : String} (absolute : Path.IsAbsolute cwd) (tree : FileTree)
    (home : Option String) :
    (candidates cwd).map Path.parts =
        (Path.beginnings (Path.parts cwd)).map (· ++ [fileName]) ∧
      (let files := existing tree (candidates cwd)
        let found := through (isRoot tree) files
        discover tree home cwd = found ++
          (if files.any (isRoot tree) then []
          else (existing tree (home.map globalPath).toList).filter fun path =>
            !found.any (Path.same path))) ∧
      ((discover tree home cwd).Pairwise fun a b => Path.same a b = false) ∧
      ∀ (tree' : FileTree) (home' : Option String),
        (∃ path ∈ candidates cwd, isRoot tree path = true) →
        (∀ path ∈ through (isRoot tree) (candidates cwd), tree' path = tree path) →
        discover tree' home' cwd = discover tree home cwd ∧
          load tree' home' cwd = load tree home cwd := by
  refine ⟨parts_candidates absolute, discover_eq tree home cwd, discover_apart absolute tree home,
    ?_⟩
  intro tree' home' rooted same
  obtain ⟨found, files, files', agree⟩ := filesUpToRoot_congr rooted same
  have first : discover tree home cwd = found := by rw [discover, files]
  have second : discover tree' home' cwd = found := by rw [discover, files']
  rw [load, load, first, second]
  exact ⟨rfl, loadFiles_congr agree⟩

/-- The tree with some entries and nothing else. -/
def treeOf (entries : List (String × FileEntry)) : FileTree := fun path =>
  (entries.lookup path).getD .missing

/-- A file that cannot be read does not end the search. Above the root and at home there are files
in one tree only. -/
theorem discover_isolated_unreadable :
    let root : String × FileEntry := ("/w/.cql.toml", .text "root = true")
    let tree := treeOf [("/w/p/.cql.toml", .binary), root, ("/.cql.toml", .text "root = true"),
      ("/h/.cql.toml", .text "")]
    let tree' := treeOf [("/w/p/.cql.toml", .binary), root]
    discover tree (some "/h") "/w/p" = ["/w/p/.cql.toml", "/w/.cql.toml"] ∧
      discover tree' none "/w/p" = discover tree (some "/h") "/w/p" ∧
      load tree' none "/w/p" = load tree (some "/h") "/w/p" := by
  intro root tree tree'
  have absolute : Path.IsAbsolute "/w/p" := by
    rw [Path.IsAbsolute]
    decide
  have rooted : ∃ path ∈ candidates "/w/p", isRoot tree path = true := by decide +kernel
  have same : ∀ path ∈ through (isRoot tree) (candidates "/w/p"), tree' path = tree path := by
    decide +kernel
  refine ⟨by decide +kernel, ?_⟩
  exact (discover_isolated absolute tree (some "/h")).2.2.2 tree' none rooted same

end ContextualQuery.Settings
