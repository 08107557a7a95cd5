import Mathlib.Data.List.Induction
import Throughput.Proofs.FileTree.Resolution

/-!
File trees that hang together: every entry stands in a directory. Nothing stands below a place that
is free, and what is made at a free place that a path leads to hangs together with the rest.
-/

namespace Throughput.FileTree

structure Grounded (tree : FileTree) : Prop where
  workingDirectory : tree.lookup? tree.workingDirectory = some .directory
  parents : ∀ held ∈ tree.entries, tree.lookup? held.1.dropLast = some .directory

instance (tree : FileTree) : Decidable tree.Grounded :=
  decidable_of_iff (tree.lookup? tree.workingDirectory = some .directory ∧
      ∀ held ∈ tree.entries, tree.lookup? held.1.dropLast = some .directory)
    ⟨fun ⟨workingDirectory, parents⟩ => ⟨workingDirectory, parents⟩,
      fun grounded => ⟨grounded.workingDirectory, grounded.parents⟩⟩

structure IsEmptyDirectory (tree : FileTree) (location : Location) : Prop where
  directory : tree.lookup? location = some .directory
  nothing : ∀ below, below ≠ [] → tree.lookup? (location ++ below) = none

theorem mem_putIn {location : Location} {entry : Entry} {entries : List (Location × Entry)}
    {held : Location × Entry} (member : held ∈ putIn location entry entries) :
    held = (location, entry) ∨ held ∈ entries := by
  induction entries with
  | nil => exact .inl (List.mem_singleton.mp member)
  | cons first rest ih =>
      unfold putIn at member
      split at member
      next =>
          rcases List.mem_cons.mp member with new | later
          · exact .inl new
          · exact .inr (List.mem_cons_of_mem _ later)
      next =>
          rcases List.mem_cons.mp member with rfl | later
          · exact .inr List.mem_cons_self
          · exact (ih later).imp_right (List.mem_cons_of_mem _)

variable {tree : FileTree} {purpose : Purpose} {links : Nat} {slashed trailing : Bool}
  {directory location : Location} {names : List (List UInt8)} {entry : Entry}

theorem lookup?_origin (start : tree.lookup? directory = some .directory) (path : Path) :
    tree.lookup? (path.origin directory) = some .directory := by
  unfold Path.origin
  split
  · rfl
  · exact start

namespace Grounded

theorem parent (grounded : tree.Grounded) (held : tree.lookup? location = some entry) :
    tree.lookup? location.dropLast = some .directory := by
  unfold lookup? at held
  split at held
  next root =>
      rw [List.isEmpty_iff.mp root]
      rfl
  next =>
      obtain ⟨listed, found, -⟩ := Option.map_eq_some_iff.mp held
      have same := List.find?_some found
      rw [← beq_iff_eq.mp same]
      exact grounded.parents listed (List.mem_of_find?_eq_some found)

/-- On the way to an entry there are directories only. -/
theorem directory_of_below (grounded : tree.Grounded) {below : Location} (proper : below ≠ [])
    (held : tree.lookup? (location ++ below) = some entry) :
    tree.lookup? location = some .directory := by
  induction below using List.reverseRecOn generalizing entry with
  | nil => exact absurd rfl proper
  | append_singleton before last ih =>
      have above := grounded.parent held
      rw [← List.append_assoc, List.dropLast_concat] at above
      by_cases direct : before = []
      · rwa [direct, List.append_nil] at above
      · exact ih direct above

theorem nothing_below (grounded : tree.Grounded) (free : tree.lookup? location = none)
    {below : Location} (proper : below ≠ []) : tree.lookup? (location ++ below) = none := by
  refine Option.eq_none_iff_forall_ne_some.mpr fun entry held => ?_
  cases free.symm.trans (grounded.directory_of_below proper held)

/-- A free place that is reached lies in a directory. -/
theorem parent_of_free (grounded : tree.Grounded)
    (start : tree.lookup? directory = some .directory)
    (reaches : Reaches tree.lookup? purpose links slashed directory names
      (.free location trailing)) : tree.lookup? location.dropLast = some .directory := by
  generalize reached : Place.free location trailing = place at reaches
  induction reaches with
  | arrive | file | link => cases reached
  | stay _ ih => exact ih start reached
  | climb _ ih => exact ih (grounded.parent start) reached
  | free links looksUp free =>
      cases reached
      rwa [List.dropLast_concat]
  | enter looksUp held _ ih => exact ih held reached
  | follow _ _ _ _ ih => exact ih (lookup?_origin start _) reached

/-- Something new in a directory. -/
theorem put_of_free (grounded : tree.Grounded) (free : tree.lookup? location = none)
    (inDirectory : tree.lookup? location.dropLast = some .directory) (entry : Entry) :
    (tree.put location entry).Grounded := by
  have kept {other : Location} (held : tree.lookup? other = some .directory) :
      (tree.put location entry).lookup? other = some .directory := by
    rw [lookup?_put_of_ne, held]
    rintro rfl
    cases free.symm.trans held
  refine ⟨kept grounded.workingDirectory, fun held member => ?_⟩
  rcases mem_putIn member with rfl | listed
  · exact kept inDirectory
  · exact kept (grounded.parents held listed)

end Grounded

end Throughput.FileTree
