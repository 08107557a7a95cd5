import Throughput.Proofs.FileTree.Change

/-!
Plain paths in a file tree without links. Such a path sees only what stands on its way, so that it is
not touched by what is written elsewhere.
-/

namespace Throughput

structure Path.Plain (path : Path) : Prop where
  relative : path.isAbsolute = false
  notHere : Path.here ∉ path.names
  notAbove : Path.above ∉ path.names

instance (path : Path) : Decidable path.Plain :=
  decidable_of_iff (path.isAbsolute = false ∧ Path.here ∉ path.names ∧ Path.above ∉ path.names)
    ⟨fun ⟨relative, notHere, notAbove⟩ => ⟨relative, notHere, notAbove⟩,
      fun plain => ⟨plain.relative, plain.notHere, plain.notAbove⟩⟩

def Entry.isLink : Entry → Bool
  | .link _ => true
  | .file _ | .directory => false

def Place.location : Place → Location
  | .found location _ => location
  | .free location _ => location

namespace FileTree

def Unlinked (tree : FileTree) : Prop := ∀ location target, tree.lookup? location ≠ some (.link target)

theorem unlinked_of_entries {tree : FileTree}
    (entries : ∀ held ∈ tree.entries, held.2.isLink = false) : tree.Unlinked := by
  intro location target held
  unfold lookup? at held
  split at held
  next => cases held
  next =>
      obtain ⟨listed, found, entry⟩ := Option.map_eq_some_iff.mp held
      have noLink := entries listed (List.mem_of_find?_eq_some found)
      rw [entry] at noLink
      cases noLink

section Rules

variable {lookup? other : Location → Option Entry} {purpose : Purpose} {links : Nat}
  {slashed : Bool} {directory : Location} {names : List (List UInt8)} {place : Place}

theorem visit_congr {onLink onOther : Location → Route → Except SystemError Place}
    (notHere : Path.here ∉ names) (notAbove : Path.above ∉ names)
    (unlinked : ∀ location target, lookup? location ≠ some (.link target))
    (same : ∀ start, start ≠ [] → start <+: names →
      other (directory ++ start) = lookup? (directory ++ start)) :
    visit other purpose slashed onOther directory names =
      visit lookup? purpose slashed onLink directory names := by
  induction names generalizing directory with
  | nil => rfl
  | cons name rest ih =>
      have isNotHere : name ≠ Path.here := (List.ne_of_not_mem_cons notHere).symm
      have isNotAbove : name ≠ Path.above := (List.ne_of_not_mem_cons notAbove).symm
      have first : other (directory ++ [name]) = lookup? (directory ++ [name]) :=
        same [name] (by simp) ⟨rest, rfl⟩
      have onward : visit other purpose slashed onOther (directory ++ [name]) rest =
          visit lookup? purpose slashed onLink (directory ++ [name]) rest := by
        refine ih (List.not_mem_of_not_mem_cons notHere) (List.not_mem_of_not_mem_cons notAbove) ?_
        intro start _ leading
        have further := same (name :: start) (by simp) (List.cons_prefix_cons.mpr ⟨rfl, leading⟩)
        simpa using further
      simp only [visit, if_neg isNotHere, if_neg isNotAbove, first, onward]
      cases held : lookup? (directory ++ [name]) with
      | none => rfl
      | some entry =>
          cases entry with
          | file | directory => rfl
          | link target => exact absurd held (unlinked _ target)

/-- Without links and dots names, every name leads one step down. -/
theorem Reaches.location_eq (notHere : Path.here ∉ names) (notAbove : Path.above ∉ names)
    (unlinked : ∀ location target, lookup? location ≠ some (.link target))
    (reaches : Reaches lookup? purpose links slashed directory names place) :
    place.location = directory ++ names := by
  induction reaches with
  | arrive => simp [Place.location]
  | stay => exact absurd List.mem_cons_self notHere
  | climb => exact absurd List.mem_cons_self notAbove
  | free | file => rfl
  | enter _ _ _ ih =>
      rw [ih (List.not_mem_of_not_mem_cons notHere) (List.not_mem_of_not_mem_cons notAbove)]
      simp
  | link _ _ _ held | follow _ held => exact absurd held (unlinked _ _)

end Rules

variable {tree later : FileTree} {path output : Path} {location : Location}

theorem location_of_destination (unlinked : tree.Unlinked) (plain : path.Plain)
    (written : tree.destination path = .ok location) :
    location = tree.workingDirectory ++ path.names := by
  have origin : path.origin tree.workingDirectory = tree.workingDirectory := by
    simp [Path.origin, plain.relative]
  rcases destination_eq_ok_iff.mp written with ⟨content, resolved⟩ | ⟨trailing, resolved⟩
  all_goals
    have reaches := (resolve_eq_ok_iff.mp resolved).2
    rw [origin] at reaches
    exact reaches.location_eq plain.notHere plain.notAbove unlinked

theorem resolve_congr (unlinked : tree.Unlinked) (plain : path.Plain)
    (sameDirectory : later.workingDirectory = tree.workingDirectory)
    (same : ∀ start, start ≠ [] → start <+: path.names →
      later.lookup? (tree.workingDirectory ++ start) = tree.lookup? (tree.workingDirectory ++ start))
    (purpose : Purpose) : later.resolve purpose path = tree.resolve purpose path := by
  have origin : path.origin tree.workingDirectory = tree.workingDirectory := by
    simp [Path.origin, plain.relative]
  unfold resolve
  rw [sameDirectory, origin, follow_eq_visit, follow_eq_visit]
  congr 3
  exact visit_congr plain.notHere plain.notAbove unlinked same

namespace Writes

theorem unlinked (writes : tree.Writes path later) (unlinked : tree.Unlinked) :
    later.Unlinked := by
  intro location target held
  by_cases same : later.lookup? location = tree.lookup? location
  · exact unlinked location target (same.symm.trans held)
  · obtain ⟨-, content, file⟩ := writes.only location same
    cases held.symm.trans file

/-- A path is not affected by what is written to a path that is no part of it. -/
theorem resolve_apart (writes : tree.Writes output later) (unlinked : tree.Unlinked)
    (plainOutput : output.Plain) (plain : path.Plain) (apart : ¬output.names <+: path.names)
    (purpose : Purpose) : later.resolve purpose path = tree.resolve purpose path := by
  refine resolve_congr unlinked plain writes.workingDirectory (fun start _ leading => ?_) purpose
  refine Classical.byContradiction fun changed => apart ?_
  have reached := location_of_destination unlinked plainOutput (writes.only _ changed).1
  rw [← List.append_cancel_left reached]
  exact leading

end Writes

end FileTree

end Throughput
