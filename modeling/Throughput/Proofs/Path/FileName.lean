import Mathlib.Data.List.Basic
import Throughput.Proofs.Path

/-!
File names: the last component of a path, taken apart at its last dot, and joined to a directory.
-/

namespace Throughput.Path

section Names

theorem not_mem_of_mem_split {bytes piece : List UInt8} (member : piece ∈ split bytes) :
    slash ∉ piece := by
  induction bytes generalizing piece with
  | nil =>
      rw [List.mem_singleton.mp member]
      exact List.not_mem_nil
  | cons byte rest ih =>
      unfold split at member
      split at member
      next =>
          rcases List.mem_cons.mp member with rfl | later
          · exact List.not_mem_nil
          · exact ih later
      next plain =>
          split at member
          next empty => exact absurd empty (split_ne_nil rest)
          next first pieces parts =>
              rcases List.mem_cons.mp member with rfl | later
              · have before : slash ∉ first := ih (by simp [parts])
                exact List.not_mem_cons_of_ne_of_not_mem (Ne.symm plain) before
              · exact ih (by simp [parts, later])

theorem split_of_not_mem {bytes : List UInt8} (whole : slash ∉ bytes) : split bytes = [bytes] := by
  induction bytes with
  | nil => rfl
  | cons byte rest ih =>
      have plain : slash ≠ byte := List.ne_of_not_mem_cons whole
      unfold split
      rw [if_neg plain.symm, ih (List.not_mem_of_not_mem_cons whole)]

variable {path directory : Path} {name : List UInt8}

theorem ne_nil_of_mem_names (member : name ∈ path.names) : name ≠ [] := by
  have kept := (List.mem_filter.mp member).2
  simpa using kept

theorem not_mem_of_mem_names (member : name ∈ path.names) : slash ∉ name :=
  not_mem_of_mem_split (List.mem_filter.mp member).1

structure IsName (name : List UInt8) : Prop where
  nonempty : name ≠ []
  whole : slash ∉ name
  notHere : name ≠ here
  notAbove : name ≠ above

namespace IsName

theorem names_eq (isName : IsName name) : names ⟨name⟩ = [name] := by
  unfold names
  rw [split_of_not_mem isName.whole]
  simpa using isName.nonempty

theorem relative (isName : IsName name) : isAbsolute ⟨name⟩ = false := by
  obtain ⟨byte, rest, rfl⟩ := List.exists_cons_of_ne_nil isName.nonempty
  have plain : slash ≠ byte := List.ne_of_not_mem_cons isName.whole
  simpa [isAbsolute] using plain.symm

theorem componentsOf_names (isName : IsName name) :
    componentsOf (names ⟨name⟩) = [.name name] := by
  rw [isName.names_eq]
  simp [componentsOf, Component.ofName, isName.notHere, isName.notAbove]

/-- Behind a directory a name is one more component, also behind the path without bytes. -/
theorem components_join (isName : IsName name) (directory : Path) :
    (directory.join ⟨name⟩).components = directory.components ++ [.name name] := by
  by_cases empty : directory.bytes = []
  · obtain ⟨bytes⟩ := directory
    cases empty
    have alone : (⟨[]⟩ : Path).join ⟨name⟩ = ⟨name⟩ := by
      rw [join, if_neg (by simp [isName.relative])]
      rfl
    have first : firstComponent ⟨name⟩ = [] := by
      simp [firstComponent, isName.relative, isName.names_eq, isName.notHere]
    rw [alone, components, first, isName.componentsOf_names]
    rfl
  · rw [Path.components_join empty isName.relative, isName.componentsOf_names]

end IsName

end Names

section FileName

variable {path : Path} {name stem : List UInt8}

theorem getLast?_firstComponent_ne (path : Path) (name : List UInt8) :
    path.firstComponent.getLast? ≠ some (.name name) := by
  unfold firstComponent
  split
  · simp
  · split <;> simp

/-- The file name is the last component, where this is a name. -/
theorem fileName?_eq_some_iff :
    path.fileName? = some name ↔ path.components.getLast? = some (.name name) := by
  unfold fileName? components componentsOf
  cases last : (path.names.filter (· != here)).getLast? with
  | none =>
      rw [List.getLast?_eq_none_iff.mp last, List.map_nil, List.append_nil]
      simpa using path.getLast?_firstComponent_ne name
  | some final =>
      have named : (path.names.filter (· != here)).map Component.ofName ≠ [] := by
        intro none
        rw [List.map_eq_nil_iff.mp none] at last
        cases last
      rw [List.getLast?_append_of_ne_nil _ named, List.getLast?_map, last]
      by_cases up : final = above <;> simp [Component.ofName, up]

theorem mem_names_of_fileName? (named : path.fileName? = some name) : name ∈ path.names := by
  unfold fileName? at named
  split at named
  next final last =>
      split at named
      next => cases named
      next =>
          cases named
          exact (List.mem_filter.mp (List.mem_of_getLast? last)).1
  next => cases named

/-- A name is taken apart at its last dot. -/
theorem splitName_append (nonempty : stem ≠ []) {extension : List UInt8}
    (dotless : dot ∉ extension) : splitName (stem ++ dot :: extension) = (stem, some extension) := by
  have passed : ∀ byte ∈ extension.reverse, (byte != dot) = true := by
    intro byte member
    rw [bne_iff_ne]
    rintro rfl
    exact dotless (List.mem_reverse.mp member)
  have behind : ((stem ++ dot :: extension).reverse.takeWhile (· != dot)).reverse = extension := by
    rw [List.reverse_append, List.reverse_cons, List.append_assoc,
      List.takeWhile_append_of_pos passed]
    simp
  have before : (stem ++ dot :: extension).length - extension.length - 1 = stem.length := by
    rw [List.length_append, List.length_cons]
    omega
  unfold splitName
  dsimp only
  rw [behind, before, List.take_left', if_neg (by simpa using nonempty)]
  rfl

theorem stem_ne_nil (nonempty : name ≠ []) : (splitName name).1 ≠ [] := by
  unfold splitName
  dsimp only
  split
  next => exact nonempty
  next proper => simpa using proper

theorem stem_subset (name : List UInt8) : (splitName name).1 ⊆ name := by
  unfold splitName
  dsimp only
  split
  next => exact List.Subset.refl _
  next => exact List.take_subset _ _

/-- The stem of a file name is a part of a name. -/
theorem of_fileStem? (taken : path.fileStem? = some stem) : stem ≠ [] ∧ slash ∉ stem := by
  obtain ⟨name, named, rfl⟩ := Option.map_eq_some_iff.mp taken
  have listed := mem_names_of_fileName? named
  exact ⟨stem_ne_nil (ne_nil_of_mem_names listed),
    fun member => not_mem_of_mem_names listed (stem_subset name member)⟩

end FileName

end Throughput.Path
