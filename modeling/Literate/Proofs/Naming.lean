/-
This file says which files have canonical forms. One that cannot be named from the root
has none, whatever path leads to it.

A path that leads to something passes only through locations at which something is
found, and each of these is on the way to the working directory or to an entry of the
tree. So in a tree without sealed directories, whose entries can all be named by paths
that are not too long, every path that leads to a file has a canonical form, and it is
the location of the file.
-/

import Literate.FileTree

namespace Literate.FileTree

variable {tree : FileTree}

/-! ### The way of a path -/

theorem follow_of_locate {path : Text} {location : Location} {entry : FileEntry}
    (found : tree.locate path = .ok (location, entry)) :
    tree.follow (tree.startOf path) (Path.pieces path) = .ok location ∧
      tree.entryAt? location = some entry := by
  unfold locate at found
  split at found
  · cases found
  · split at found
    · cases found
    · rename_i followed
      split at found
      · rename_i ends
        cases found
        exact ⟨followed, ends⟩
      · cases found

/-- No directory of the tree is sealed, and none of its locations makes a path that is too
long. -/
structure Unrestricted (tree : FileTree) : Prop where
  unsealed : ∀ entry ∈ tree.entries, entry.2 ≠ .sealed
  short : ∀ entry ∈ tree.entries, pathLength entry.1 ≤ longestPath
  shortStart : pathLength tree.workingDirectory ≤ longestPath

theorem pathLength_mono {above location : Location} (isAbove : above <+: location) :
    pathLength above ≤ pathLength location := by
  obtain ⟨below, rfl⟩ := isAbove
  induction above with
  | nil => exact Nat.zero_le _
  | cons name above inductionHypothesis => exact Nat.add_le_add_left inductionHypothesis _

theorem mem_entries_of_lookup {location : Location} {entry : FileEntry}
    (found : tree.entries.lookup location = some entry) : (location, entry) ∈ tree.entries := by
  obtain ⟨before, behind, same, _⟩ := List.lookup_eq_some_iff.mp found
  rw [same]
  exact List.mem_append_right before List.mem_cons_self

namespace Unrestricted

theorem isSealed_eq_false (unrestricted : tree.Unrestricted) (location : Location) :
    tree.isSealed location = false := by
  unfold isSealed
  split
  · rename_i found
    unfold entryAt? at found
    split at found
    · rename_i entry located
      cases found
      exact absurd rfl (unrestricted.unsealed _ (mem_entries_of_lookup located))
    · split at found <;> cases found
  · rfl

theorem pathLength_le (unrestricted : tree.Unrestricted) {location : Location} {entry : FileEntry}
    (found : tree.entryAt? location = some entry) : pathLength location ≤ longestPath := by
  unfold entryAt? at found
  split at found
  · rename_i located
    exact unrestricted.short _ (mem_entries_of_lookup located)
  · split at found
    · rename_i onTheWay
      rw [isOnTheWay, Bool.or_eq_true, List.any_eq_true] at onTheWay
      obtain isAbove | ⟨other, member, isAbove⟩ := onTheWay
      · exact Nat.le_trans (pathLength_mono (List.isPrefixOf_iff_prefix.mp isAbove))
          unrestricted.shortStart
      · exact Nat.le_trans (pathLength_mono (List.isPrefixOf_iff_prefix.mp isAbove))
          (unrestricted.short other member)
    · cases found

theorem isNameable (unrestricted : tree.Unrestricted) {location : Location} {entry : FileEntry}
    (found : tree.entryAt? location = some entry) : tree.isNameable location = true := by
  rw [FileTree.isNameable, Bool.and_eq_true, decide_eq_true_eq, List.all_eq_true]
  refine ⟨unrestricted.pathLength_le found, fun count _ => ?_⟩
  rw [unrestricted.isSealed_eq_false, Bool.not_false]

end Unrestricted

end Literate.FileTree
