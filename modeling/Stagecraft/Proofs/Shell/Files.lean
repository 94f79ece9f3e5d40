import Mathlib.Data.List.Nodup
import Stagecraft.Shell.Disk

/-!
# Files below a directory

`Node.files` collects all files and sorts them by their paths. A walk through the tree meets the
same files in the same order, if it goes through the entries of every directory by their names and
into a directory as soon as it meets it.

* `Node.HasFile` says where a file stands below a node, `Node.Distinct` that no directory has two
  entries of one name;
* `Node.visited` is the walk, and `Node.mem_visited` says that it meets all files and nothing else;
* `Node.pairwise_visited`: the paths that it meets increase, compared component by component;
* `Node.files_eq_visited`: sorting makes no difference.
-/

namespace Stagecraft.Shell

/-! ## 1. Trees -/

/-- A file stands at the end of a path below a node. -/
inductive Node.HasFile : Node → List String → ByteArray → Prop
  /-- Nothing leads to a file that is the node itself. -/
  | here (bytes : ByteArray) : HasFile (.file bytes) [] bytes
  /-- The name of an entry leads below the entry. -/
  | inside {entries : List (String × Node)} {name : String} {inner : Node} {path : List String}
      {bytes : ByteArray} (entry : (name, inner) ∈ entries) (rest : HasFile inner path bytes) :
      HasFile (.folder entries) (name :: path) bytes

/-- No directory has two entries of one name. -/
inductive Node.Distinct : Node → Prop
  | file (bytes : ByteArray) : Distinct (.file bytes)
  | folder {entries : List (String × Node)} (names : (entries.map Prod.fst).Nodup)
      (inner : ∀ entry ∈ entries, Distinct entry.2) : Distinct (.folder entries)

/-! ## 2. The walk -/

/-- Files as they are seen from the directory around an entry. -/
def filesUnder (name : String) (files : List (List String × ByteArray)) :
    List (List String × ByteArray) :=
  files.map fun (path, bytes) => (name :: path, bytes)

mutual

/-- The files below a node as a walk meets them that takes the entries of every directory by their
    names, and goes into a directory as soon as it meets it. -/
def Node.visited : Node → List (List String × ByteArray)
  | .file bytes => [([], bytes)]
  | .folder entries =>
    ((visitedEntries entries).mergeSort fun a b => a.1 ≤ b.1).flatMap fun (name, files) =>
      filesUnder name files

/-- The files below each of the entries. -/
def visitedEntries : List (String × Node) → List (String × List (List String × ByteArray))
  | [] => []
  | (name, node) :: entries => (name, node.visited) :: visitedEntries entries

end

variable {node : Node} {entries : List (String × Node)} {path : List String} {bytes : ByteArray}

theorem visitedEntries_eq_map : ∀ entries : List (String × Node),
    visitedEntries entries = entries.map fun entry => (entry.1, entry.2.visited)
  | [] => by rw [visitedEntries, List.map_nil]
  | (name, node) :: entries => by
      rw [visitedEntries, visitedEntries_eq_map entries, List.map_cons]

theorem mem_visited_folder : (path, bytes) ∈ (Node.folder entries).visited ↔
    ∃ name inner rest, (name, inner) ∈ entries ∧ (rest, bytes) ∈ inner.visited ∧
      name :: rest = path := by
  simp only [Node.visited, visitedEntries_eq_map, filesUnder, List.mem_flatMap, List.mem_mergeSort,
    List.mem_map, Prod.exists, Prod.mk.injEq]
  constructor
  · rintro ⟨_, _, ⟨name, inner, hentry, rfl, rfl⟩, rest, _, hrest, rfl, rfl⟩
    exact ⟨name, inner, rest, hentry, hrest, rfl⟩
  · rintro ⟨name, inner, rest, hentry, hrest, rfl⟩
    exact ⟨name, _, ⟨name, inner, hentry, rfl, rfl⟩, rest, bytes, hrest, rfl, rfl⟩

/-- **The walk meets all files, and nothing else.** -/
theorem Node.mem_visited : (path, bytes) ∈ node.visited ↔ node.HasFile path bytes := by
  constructor
  · intro h
    -- every step of the walk leaves a shorter path
    induction path generalizing node with
    | nil =>
        cases node with
        | file other =>
            rw [Node.visited, List.mem_singleton] at h
            cases h
            exact .here bytes
        | folder entries =>
            obtain ⟨_, _, _, _, _, hpath⟩ := mem_visited_folder.mp h
            cases hpath
    | cons name rest ih =>
        cases node with
        | file other =>
            rw [Node.visited, List.mem_singleton] at h
            cases h
        | folder entries =>
            obtain ⟨_, inner, _, hentry, hrest, hpath⟩ := mem_visited_folder.mp h
            cases hpath
            exact .inside hentry (ih hrest)
  · intro h
    induction h with
    | here bytes => rw [Node.visited, List.mem_singleton]
    | inside hentry _ ih => exact mem_visited_folder.mpr ⟨_, _, _, hentry, ih, rfl⟩

/-! ## 3. The order of the walk -/

/-- Names that are all different increase when they are sorted. -/
theorem pairwise_sorted_names {α : Type} {xs : List (String × α)} (h : (xs.map Prod.fst).Nodup) :
    (xs.mergeSort fun a b => a.1 ≤ b.1).Pairwise fun a b => a.1 < b.1 := by
  have hle : (xs.mergeSort fun a b => a.1 ≤ b.1).Pairwise fun a b => a.1 ≤ b.1 := by
    refine (List.pairwise_mergeSort (fun a b c hab hbc => ?_) (fun a b => ?_) xs).imp
      of_decide_eq_true
    · exact decide_eq_true (String.le_trans (of_decide_eq_true hab) (of_decide_eq_true hbc))
    · rw [Bool.or_eq_true, decide_eq_true_eq, decide_eq_true_eq]
      exact String.le_total a.1 b.1
  have hne : (xs.mergeSort fun a b => a.1 ≤ b.1).Pairwise fun a b => a.1 ≠ b.1 := by
    have hnodup := ((List.mergeSort_perm xs fun a b => a.1 ≤ b.1).map Prod.fst).nodup_iff.mpr h
    exact List.pairwise_map.mp hnodup
  exact (hle.and hne).imp fun ⟨hle, hne⟩ => Std.lt_of_le_of_ne hle hne

/-- **The paths that the walk meets increase**, compared component by component. -/
theorem Node.pairwise_visited (h : node.Distinct) : node.visited.Pairwise fun a b => a.1 < b.1 := by
  induction h with
  | file bytes =>
      rw [Node.visited]
      exact List.pairwise_singleton _ _
  | @folder entries hnames _ ih =>
      have hnodup : ((visitedEntries entries).map Prod.fst).Nodup := by
        rw [visitedEntries_eq_map, List.map_map]
        exact hnames
      have hsorted := pairwise_sorted_names hnodup
      rw [Node.visited, List.pairwise_flatMap]
      constructor
      · -- below one entry, its own walk decides
        intro visit hvisit
        rw [List.mem_mergeSort, visitedEntries_eq_map, List.mem_map] at hvisit
        obtain ⟨entry, hentry, rfl⟩ := hvisit
        refine List.pairwise_map.mpr ((ih entry hentry).imp fun hlt => ?_)
        exact List.cons_lt_cons_iff.mpr (.inr ⟨rfl, hlt⟩)
      · -- below two entries, their names do
        refine hsorted.imp fun hlt a ha b hb => ?_
        obtain ⟨_, _, rfl⟩ := List.mem_map.mp ha
        obtain ⟨_, _, rfl⟩ := List.mem_map.mp hb
        exact List.cons_lt_cons_iff.mpr (.inl hlt)

/-! ## 4. Sorting -/

-- with all of Mathlib there are two orders `≤` of lists, but one `<`
theorem pathBefore_iff : ∀ {a b : List String}, pathBefore a b = true ↔ ¬ b < a
  | [], b => by simp [pathBefore]
  | _ :: _, [] => by simp [pathBefore]
  | a :: as, b :: bs => by
      rw [pathBefore, List.not_lt, List.cons_le_cons_iff, ← List.not_lt]
      split
      next heq =>
        subst heq
        rw [pathBefore_iff, or_iff_right (String.lt_irrefl a), and_iff_right rfl]
      next hne => simp [hne]

mutual

/-- What is collected below a node is what the walk meets there, in some order. -/
theorem perm_filesFrom (above : List String) : ∀ node : Node, (node.filesFrom above).Perm
    (node.visited.map fun file => (above.reverse ++ file.1, file.2))
  | .file bytes => by simp [Node.filesFrom, Node.visited]
  | .folder entries => by
      rw [Node.filesFrom, Node.visited, List.map_flatMap]
      refine (perm_filesOfEntries above entries).trans ?_
      exact ((List.mergeSort_perm _ _).symm).flatMap_right _

theorem perm_filesOfEntries (above : List String) : ∀ entries : List (String × Node),
    (filesOfEntries above entries).Perm ((visitedEntries entries).flatMap fun visit =>
      (filesUnder visit.1 visit.2).map fun file => (above.reverse ++ file.1, file.2))
  | [] => by simp [filesOfEntries, visitedEntries]
  | (name, node) :: entries => by
      rw [filesOfEntries, visitedEntries, List.flatMap_cons]
      have hnode := perm_filesFrom (name :: above) node
      refine .append ?_ (perm_filesOfEntries above entries)
      simpa [filesUnder, Function.comp_def] using hnode

end

/-- **Sorting makes no difference**: the files below a node, in the order of their paths, are those
    that the walk meets, in the order in which it meets them. -/
theorem Node.files_eq_visited (h : node.Distinct) : node.files = node.visited := by
  have hperm : node.files.Perm node.visited := by
    have hfrom := perm_filesFrom [] node
    simp only [List.reverse_nil, List.nil_append, List.map_id'] at hfrom
    exact (List.mergeSort_perm _ _).trans hfrom
  have hwalk := pairwise_visited h
  have hsorted : node.files.Pairwise fun a b => ¬ b.1 < a.1 := by
    refine (List.pairwise_mergeSort (fun a b c hab hbc => ?_) (fun a b => ?_) _).imp
      pathBefore_iff.mp
    · rw [pathBefore_iff, List.not_lt] at hab hbc ⊢
      exact List.le_trans hab hbc
    · rw [Bool.or_eq_true, pathBefore_iff, pathBefore_iff, List.not_lt, List.not_lt]
      exact List.le_total a.1 b.1
  have hpaths : (node.visited.map Prod.fst).Nodup := by
    refine List.pairwise_map.mpr (hwalk.imp fun {a b} hlt heq => ?_)
    rw [heq] at hlt
    exact List.lt_irrefl b.1 hlt
  refine List.Perm.eq_of_pairwise (fun a b ha hb hab hba => ?_) hsorted
    (hwalk.imp List.lt_asymm) hperm
  have hpath : a.1 = b.1 := List.le_antisymm (List.not_lt.mp hab) (List.not_lt.mp hba)
  exact List.inj_on_of_nodup_map hpaths (hperm.mem_iff.mp ha) hb hpath

end Stagecraft.Shell
