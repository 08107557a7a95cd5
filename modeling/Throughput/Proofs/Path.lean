import Throughput.Path

/-!
Paths by their components, and what joining two paths does to them. Directories that are named
as the current one do not count, unless a relative path begins with one.
-/

namespace Throughput

namespace Path

inductive Component
  | root
  | here
  | above
  | name (text : List UInt8)
deriving DecidableEq

def Component.ofName (name : List UInt8) : Component :=
  if name = Path.above then .above else .name name

def componentsOf (names : List (List UInt8)) : List Component :=
  (names.filter (· != here)).map .ofName

def firstComponent (path : Path) : List Component :=
  if path.isAbsolute then [.root] else if path.names.head? = some here then [.here] else []

def components (path : Path) : List Component := path.firstComponent ++ componentsOf path.names

/-- The path goes on behind the directory, and never up again. -/
def LiesIn (path directory : Path) : Prop :=
  ∃ rest, rest ≠ [] ∧ path.components = directory.components ++ rest ∧ .above ∉ rest

structure Descends (path : Path) : Prop where
  relative : path.isAbsolute = false
  named : ∃ name ∈ path.names, name ≠ here
  straight : above ∉ path.names

section Split

theorem split_ne_nil (bytes : List UInt8) : split bytes ≠ [] := by
  induction bytes with
  | nil => exact List.cons_ne_nil _ _
  | cons byte rest ih =>
      unfold split
      split
      · exact List.cons_ne_nil _ _
      · split <;> exact List.cons_ne_nil _ _

theorem split_append_slash (before after : List UInt8) :
    split (before ++ slash :: after) = split before ++ split after := by
  induction before with
  | nil => simp [split]
  | cons byte rest ih =>
      rw [List.cons_append, split, split, ih]
      by_cases separates : byte = slash
      · rw [if_pos separates, if_pos separates, List.cons_append]
      · rw [if_neg separates, if_neg separates]
        cases pieces : split rest with
        | nil => exact absurd pieces (split_ne_nil rest)
        | cons => rfl

theorem names_append_slash (before after : List UInt8) :
    names ⟨before ++ slash :: after⟩ = names ⟨before⟩ ++ names ⟨after⟩ := by
  unfold names
  rw [split_append_slash, List.filter_append]

/-- The first name of a relative path stands at its very start. -/
theorem names_ne_nil {path : Path} (nonempty : path.bytes ≠ [])
    (relative : path.isAbsolute = false) : path.names ≠ [] := by
  obtain ⟨bytes⟩ := path
  cases bytes with
  | nil => exact absurd rfl nonempty
  | cons byte rest =>
      have plain : byte ≠ slash := by
        rintro rfl
        cases relative
      unfold names split
      rw [if_neg plain]
      split <;> simp

end Split

section Join

variable {directory name : Path}

theorem join_of_absolute (absolute : name.isAbsolute = true) : directory.join name = name := by
  rw [join, if_pos absolute]

theorem names_join (nonempty : directory.bytes ≠ []) (relative : name.isAbsolute = false) :
    (directory.join name).names = directory.names ++ name.names := by
  obtain ⟨bytes⟩ := directory
  rw [join, if_neg (by simp [relative])]
  cases slashed : endsWithSlash ⟨bytes⟩ with
  | false =>
      have separate : ¬(bytes.isEmpty || false) = true := by simpa using nonempty
      rw [if_neg separate, names_append_slash]
  | true =>
      obtain ⟨before, rfl⟩ := List.getLast?_eq_some_iff.mp (beq_iff_eq.mp slashed)
      rw [if_pos (by simp), names_append_slash, List.append_assoc, List.singleton_append,
        names_append_slash]
      simp [names, split]

theorem isAbsolute_join (nonempty : directory.bytes ≠ []) (relative : name.isAbsolute = false) :
    (directory.join name).isAbsolute = directory.isAbsolute := by
  obtain ⟨bytes⟩ := directory
  obtain ⟨byte, rest, rfl⟩ := List.exists_cons_of_ne_nil nonempty
  rw [join, if_neg (by simp [relative])]
  split <;> rfl

theorem endsWithSlash_join_nil (nonempty : directory.bytes ≠ []) :
    (directory.join ⟨[]⟩).endsWithSlash = true := by
  obtain ⟨bytes⟩ := directory
  rw [join, if_neg (by decide)]
  cases slashed : endsWithSlash ⟨bytes⟩ with
  | false =>
      have separate : ¬(bytes.isEmpty || false) = true := by simpa using nonempty
      rw [if_neg separate]
      simp [endsWithSlash]
  | true =>
      rw [if_pos (by simp), List.append_nil]
      exact slashed

theorem components_join (nonempty : directory.bytes ≠ []) (relative : name.isAbsolute = false) :
    (directory.join name).components = directory.components ++ componentsOf name.names := by
  have first : (directory.join name).firstComponent = directory.firstComponent := by
    unfold firstComponent
    rw [isAbsolute_join nonempty relative, names_join nonempty relative]
    split
    next => rfl
    next below =>
        obtain ⟨start, later, named⟩ :=
          List.exists_cons_of_ne_nil (names_ne_nil nonempty (by simpa using below))
        rw [named]
        rfl
  unfold components
  rw [first, names_join nonempty relative, componentsOf, List.filter_append, List.map_append,
    ← List.append_assoc]
  rfl

theorem componentsOf_ne_nil_iff {names : List (List UInt8)} :
    componentsOf names ≠ [] ↔ ∃ name ∈ names, name ≠ here := by
  simp [componentsOf]

theorem above_mem_componentsOf_iff {names : List (List UInt8)} :
    .above ∈ componentsOf names ↔ above ∈ names := by
  simp only [componentsOf, List.mem_map, List.mem_filter, bne_iff_ne, ne_eq]
  constructor
  · rintro ⟨name, ⟨member, -⟩, up⟩
    unfold Component.ofName at up
    split at up
    next same => exact same ▸ member
    next => cases up
  · intro member
    exact ⟨above, ⟨member, by decide⟩, rfl⟩

/-- A relative path that is joined to a directory leads to something in it exactly when it leads
downwards. -/
theorem join_liesIn_iff (nonempty : directory.bytes ≠ []) (relative : name.isAbsolute = false) :
    (directory.join name).LiesIn directory ↔ name.Descends := by
  unfold LiesIn
  rw [components_join nonempty relative]
  constructor
  · rintro ⟨rest, further, same, straight⟩
    obtain rfl := List.append_cancel_left same
    exact ⟨relative, componentsOf_ne_nil_iff.mp further,
      fun up => straight (above_mem_componentsOf_iff.mpr up)⟩
  · intro descends
    exact ⟨_, componentsOf_ne_nil_iff.mpr descends.named, rfl,
      fun up => descends.straight (above_mem_componentsOf_iff.mp up)⟩

end Join

end Path

end Throughput
