import Throughput.Proofs.FileTree.Grounded
import Throughput.Proofs.Pipeline.Effects

/-!
How ensuring an output directory ends. Where a path leads decides it, and so does whether the path
names a free place; looking follows a link at the end of the path, and making does not.
-/

namespace Throughput

namespace FileTree

def LeadsTo (tree : FileTree) (path : Path) (location : Location) (entry : Entry) : Prop :=
  Accepts path ∧ Reaches tree.lookup? .target linkLimit path.endsWithSlash
    (path.origin tree.workingDirectory) path.names (.found location entry)

/-- The path names a place where nothing stands, in a directory that it leads to. A link at its end
is an entry of its own, wherever it leads. -/
def IsVacant (tree : FileTree) (path : Path) (location : Location) : Prop :=
  Accepts path ∧ ∃ trailing, Reaches tree.lookup? .name linkLimit path.endsWithSlash
    (path.origin tree.workingDirectory) path.names (.free location trailing)

structure AddsDirectory (tree : FileTree) (path : Path) (location : Location)
    (later : FileTree) : Prop where
  workingDirectory : later.workingDirectory = tree.workingDirectory
  free : tree.lookup? location = none
  others : ∀ other, other ≠ location → later.lookup? other = tree.lookup? other
  leads : later.LeadsTo path location .directory
  empty : tree.Grounded → later.IsEmptyDirectory location
  grounded : tree.Grounded → later.Grounded

variable {tree later : FileTree} {path : Path} {location : Location} {entry : Entry}

theorem look_eq_ok_iff_leadsTo : tree.look path = .ok entry ↔
    ∃ location, tree.LeadsTo path location entry := by
  rw [look_eq_ok_iff]
  exact exists_congr fun location => resolve_eq_ok_iff

theorem isVacant_iff : tree.IsVacant path location ↔
    ∃ trailing, tree.resolve .name path = .ok (.free location trailing) := by
  simp only [resolve_eq_ok_iff, IsVacant, exists_and_left]

theorem makeDirectory_eq_ok_iff_isVacant : tree.makeDirectory path = .ok later ↔
    ∃ location, tree.IsVacant path location ∧ later = tree.put location .directory := by
  simp only [makeDirectory_eq_ok_iff, isVacant_iff, exists_and_right]

namespace IsVacant

theorem lookup?_eq_none (vacant : tree.IsVacant path location) : tree.lookup? location = none := by
  obtain ⟨-, trailing, reaches⟩ := vacant
  exact reaches.lookup?_free

/-- The two ways of following a path agree on a free place. -/
theorem look_eq (vacant : tree.IsVacant path location) : tree.look path = .error .notFound := by
  have free := vacant.lookup?_eq_none
  obtain ⟨accepts, trailing, reaches⟩ := vacant
  have resolved : tree.resolve .target path = .ok (.free location trailing) := by
    refine resolve_eq_ok_iff.mpr ⟨accepts, reaches.of_free (.refl _) (.inr rfl) ?_⟩
    rintro links parent name looksUp rfl
    exact .free links looksUp free
  unfold look
  rw [resolved]
  rfl

theorem not_leadsTo (vacant : tree.IsVacant path location) (other : Location) (entry : Entry) :
    ¬tree.LeadsTo path other entry := by
  intro leads
  cases vacant.look_eq.symm.trans (look_eq_ok_iff_leadsTo.mpr ⟨other, leads⟩)

theorem addsDirectory (vacant : tree.IsVacant path location) :
    tree.AddsDirectory path location (tree.put location .directory) := by
  have free := vacant.lookup?_eq_none
  have below : location ≠ [] := by
    rintro rfl
    cases free
  have made : (tree.put location .directory).lookup? location = some .directory :=
    lookup?_put_self below
  obtain ⟨trailing, resolved⟩ := isVacant_iff.mp vacant
  refine ⟨rfl, free, fun other differs => lookup?_put_of_ne differs.symm, ?_, ?_, ?_⟩
  · exact resolve_eq_ok_iff.mp
      (resolve_new_directory (retains_put_of_free free _) rfl resolved made)
  · refine fun grounded => ⟨made, fun rest proper => ?_⟩
    rw [lookup?_put_of_ne (by simpa using proper), grounded.nothing_below free proper]
  · intro grounded
    have reaches := (resolve_eq_ok_iff.mp resolved).2
    have start := lookup?_origin grounded.workingDirectory path
    exact grounded.put_of_free free (grounded.parent_of_free start reaches) .directory

end IsVacant

end FileTree

namespace EnsureCourse

variable {path : Path} {tree finish : FileTree} {result : Except OutputError DirectoryStatus}
  {location : Location}

theorem of_isVacant (course : EnsureCourse path tree result finish)
    (vacant : tree.IsVacant path location) :
    result = .ok .created ∧ finish = tree.put location .directory := by
  have looked := vacant.look_eq
  have made := FileTree.makeDirectory_eq_ok_iff_isVacant.mpr ⟨location, vacant, rfl⟩
  cases course with
  | existing found | notADirectory found => cases looked.symm.trans found
  | created missing other =>
      cases made.symm.trans other
      exact ⟨rfl, rfl⟩
  | unmade missing failed => cases made.symm.trans failed
  | unreachable failed other =>
      cases looked.symm.trans failed
      exact absurd rfl other

theorem created_iff (course : EnsureCourse path tree result finish) :
    result = .ok .created ↔ ∃ location, tree.IsVacant path location := by
  constructor
  · rintro rfl
    cases course with
    | created missing made =>
        obtain ⟨location, vacant, -⟩ := FileTree.makeDirectory_eq_ok_iff_isVacant.mp made
        exact ⟨location, vacant⟩
  · rintro ⟨location, vacant⟩
    exact (course.of_isVacant vacant).1

theorem existing_iff (course : EnsureCourse path tree result finish) :
    result = .ok .existing ↔ ∃ location, tree.LeadsTo path location .directory := by
  rw [← FileTree.look_eq_ok_iff_leadsTo]
  constructor
  · rintro rfl
    cases course with
    | existing looked => exact looked
  · exact fun there => (course.of_directory there).1

theorem notADirectory_iff (course : EnsureCourse path tree result finish) :
    result = .error (.notADirectory path) ↔
      ∃ location entry, tree.LeadsTo path location entry ∧ entry ≠ .directory := by
  constructor
  · rintro rfl
    cases course with
    | notADirectory looked other =>
        obtain ⟨location, leads⟩ := FileTree.look_eq_ok_iff_leadsTo.mp looked
        exact ⟨location, _, leads, other⟩
  · rintro ⟨location, entry, leads, other⟩
    have there := FileTree.look_eq_ok_iff_leadsTo.mpr ⟨location, leads⟩
    cases course with
    | existing looked =>
        cases there.symm.trans looked
        exact absurd rfl other
    | notADirectory => rfl
    | created missing | unmade missing => cases there.symm.trans missing
    | unreachable failed => cases there.symm.trans failed

theorem io_iff (course : EnsureCourse path tree result finish) :
    (∃ cause, result = .error (.io path cause)) ↔
      (∀ location entry, ¬tree.LeadsTo path location entry) ∧
        ∀ location, ¬tree.IsVacant path location := by
  constructor
  · rintro ⟨cause, rfl⟩
    refine ⟨fun location entry leads => ?_, fun location vacant => ?_⟩
    · have there := FileTree.look_eq_ok_iff_leadsTo.mpr ⟨location, leads⟩
      cases course with
      | unmade missing => cases there.symm.trans missing
      | unreachable failed => cases there.symm.trans failed
    · cases (course.of_isVacant vacant).1
  · rintro ⟨nowhere, taken⟩
    cases course with
    | existing looked | notADirectory looked =>
        obtain ⟨location, leads⟩ := FileTree.look_eq_ok_iff_leadsTo.mp looked
        exact absurd leads (nowhere location _)
    | created missing made =>
        obtain ⟨location, vacant, -⟩ := FileTree.makeDirectory_eq_ok_iff_isVacant.mp made
        exact absurd vacant (taken location)
    | unmade | unreachable => exact ⟨_, rfl⟩

end EnsureCourse

/-- A directory is made exactly where the path names a free place, and then nothing else is changed;
in every other case nothing is. A directory that has been ensured is found when it is ensured
again. -/
theorem ensureDirectory_outcomes (path : Path) (machine : Machine) :
    ∃ result after, (ensureDirectory path).on machine = (result, after) ∧
      (result = .ok .created ↔ ∃ location, machine.tree.IsVacant path location) ∧
      (result = .ok .existing ↔ ∃ location, machine.tree.LeadsTo path location .directory) ∧
      (result = .error (.notADirectory path) ↔
        ∃ location entry, machine.tree.LeadsTo path location entry ∧ entry ≠ .directory) ∧
      ((∃ cause, result = .error (.io path cause)) ↔
        (∀ location entry, ¬machine.tree.LeadsTo path location entry) ∧
          ∀ location, ¬machine.tree.IsVacant path location) ∧
      (∀ location, machine.tree.IsVacant path location →
        (∀ other entry, ¬machine.tree.LeadsTo path other entry) ∧
          machine.tree.AddsDirectory path location after.tree) ∧
      (result ≠ .ok .created → after.tree = machine.tree) ∧
      ∀ status, result = .ok status → ∃ again,
        (ensureDirectory path).on after = (.ok .existing, again) ∧ again.tree = after.tree := by
  obtain ⟨result, finish, events, -, course, leads⟩ :=
    ensureDirectory_takes_course path machine.tree
  refine ⟨result, _, leads.on, course.created_iff, course.existing_iff, course.notADirectory_iff,
    course.io_iff, ?_, course.finish_eq, ?_⟩
  · intro location vacant
    obtain ⟨-, rfl⟩ := course.of_isVacant vacant
    exact ⟨vacant.not_leadsTo, vacant.addsDirectory⟩
  · rintro status rfl
    obtain ⟨second, last, more, -, repeated, leadsAgain⟩ :=
      ensureDirectory_takes_course path finish
    obtain ⟨answer, unchanged⟩ := repeated.of_directory course.look_eq
    rw [answer, unchanged] at leadsAgain
    exact ⟨_, leadsAgain.ran (machine.journal ++ events), rfl⟩

def linkedTree : FileTree :=
  { entries :=
      [([Utf8.bytes "log"], .file (.bytes [])), ([Utf8.bytes "away"], .link (.ofText "gone")),
        ([Utf8.bytes "round"], .link (.ofText "round"))]
    workingDirectory := [] }

example : linkedTree.Grounded ∧
    ["new/", "log", "away", "round", "gone/new"].map (fun text =>
      ((ensureDirectory (.ofText text)).resultOn linkedTree).toOption) =
        [some .created, none, none, none, none] := by
  decide +kernel

end Throughput
