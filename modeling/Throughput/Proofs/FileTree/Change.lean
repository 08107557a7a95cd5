import Throughput.Proofs.FileTree.Resolution

/-!
What becomes of a file tree when a file is written or a directory is made. Everything that was there
is kept, so that paths go on leading where they led, and a path to a new entry leads to it.
-/

namespace Throughput

theorem Entry.Keeps.trans {entry middle later : Entry} (first : entry.Keeps middle)
    (rest : middle.Keeps later) : entry.Keeps later := by
  cases first with
  | directory => exact rest
  | link target => exact rest
  | file content =>
      cases rest with
      | file _ later => exact .file content later

namespace FileTree

structure Alike (tree other : FileTree) : Prop where
  workingDirectory : tree.workingDirectory = other.workingDirectory
  entries : ∀ location, tree.lookup? location = other.lookup? location

namespace Alike

variable {tree other third : FileTree}

theorem refl (tree : FileTree) : tree.Alike tree := ⟨rfl, fun _ => rfl⟩

theorem trans (first : tree.Alike other) (rest : other.Alike third) : tree.Alike third :=
  ⟨first.workingDirectory.trans rest.workingDirectory,
    fun location => (first.entries location).trans (rest.entries location)⟩

theorem resolve (alike : tree.Alike other) (purpose : Purpose) (path : Path) :
    tree.resolve purpose path = other.resolve purpose path := by
  unfold FileTree.resolve
  rw [funext alike.entries, alike.workingDirectory]

theorem destination (alike : tree.Alike other) (path : Path) :
    tree.destination path = other.destination path := by
  unfold FileTree.destination
  rw [alike.resolve]

end Alike

section Retaining

variable {before middle after : Location → Option Entry}

theorem Retains.refl (lookup? : Location → Option Entry) : Retains lookup? lookup? :=
  fun _ entry held => ⟨entry, held, .refl entry⟩

theorem Retains.trans (first : Retains before middle) (rest : Retains middle after) :
    Retains before after := by
  intro location entry held
  obtain ⟨next, heldNext, keeps⟩ := first location entry held
  obtain ⟨later, heldLater, keepsOn⟩ := rest location next heldNext
  exact ⟨later, heldLater, keeps.trans keepsOn⟩

end Retaining

section Rules

variable {lookup? before after : Location → Option Entry} {purpose laxer : Purpose} {links : Nat}
  {slashed trailing : Bool} {directory location : Location} {names : List (List UInt8)}
  {place : Place}

theorem LooksUp.relax {name : List UInt8} {rest : List (List UInt8)}
    (looksUp : LooksUp purpose slashed name rest) (lax : laxer = purpose ∨ laxer = .target) :
    LooksUp laxer slashed name rest := by
  refine ⟨looksUp.notHere, looksUp.notAbove, ?_, looksUp.short⟩
  rcases lax with rfl | rfl
  · exact looksUp.fits
  · simp

/-- What can be written is found when it is looked for. -/
theorem Reaches.target (reaches : Reaches lookup? .newFile links slashed directory names place) :
    Reaches lookup? .target links slashed directory names place := by
  induction reaches with
  | arrive => exact .arrive _ _ _
  | stay _ ih => exact .stay ih
  | climb _ ih => exact .climb ih
  | free links looksUp free => exact .free links (looksUp.relax (.inr rfl)) free
  | file links looksUp held => exact .file links (looksUp.relax (.inr rfl)) held
  | enter looksUp held _ ih => exact .enter (looksUp.relax (.inr rfl)) held ih
  | link _ _ named => cases named
  | follow looksUp held _ _ ih =>
      exact .follow (looksUp.relax (.inr rfl)) held (by simp) ih

/-- A path to a free name leads on to what comes to stand there. Only the last name is looked up
differently, so it is enough to say where that one leads. -/
theorem Reaches.of_free (retains : Retains before after)
    (lax : laxer = purpose ∨ laxer = .target)
    (reaches : Reaches before purpose links slashed directory names (.free location trailing))
    (ends : ∀ links parent name, LooksUp laxer trailing name [] → parent ++ [name] = location →
      Reaches after laxer links trailing parent [name] place) :
    Reaches after laxer links slashed directory names place := by
  generalize reached : Place.free location trailing = goal at reaches
  induction reaches with
  | arrive | file | link => cases reached
  | stay _ ih => exact .stay (ih reached)
  | climb _ ih => exact .climb (ih reached)
  | free links looksUp =>
      cases reached
      exact ends links _ _ (looksUp.relax lax) rfl
  | enter looksUp held _ ih =>
      obtain ⟨_, still, ⟨⟩⟩ := retains _ _ held
      exact .enter (looksUp.relax lax) still (ih reached)
  | follow looksUp held followed _ ih =>
      obtain ⟨_, still, ⟨⟩⟩ := retains _ _ held
      refine .follow (looksUp.relax lax) still ?_ (ih reached)
      rcases lax with rfl | rfl
      · exact followed
      · simp

end Rules

section Paths

variable {tree later : FileTree} {purpose : Purpose} {path : Path} {location : Location}
  {trailing : Bool} {content : Content} {entry : Entry}

/-- A path goes on leading to the same location, and finds there what is kept of the entry. -/
theorem resolve_found_retained (retains : Retains tree.lookup? later.lookup?)
    (sameDirectory : later.workingDirectory = tree.workingDirectory)
    (found : tree.resolve purpose path = .ok (.found location entry)) :
    ∃ now, entry.Keeps now ∧ later.resolve purpose path = .ok (.found location now) := by
  obtain ⟨accepts, reaches⟩ := resolve_eq_ok_iff.mp found
  obtain ⟨now, keeps, still⟩ := reaches.retained retains
  refine ⟨now, keeps, ?_⟩
  rw [resolve_eq_ok_iff, sameDirectory]
  exact ⟨accepts, still⟩

theorem resolve_free_retained (retains : Retains tree.lookup? later.lookup?)
    (sameDirectory : later.workingDirectory = tree.workingDirectory)
    (free : tree.resolve purpose path = .ok (.free location trailing))
    (still : later.lookup? location = none) :
    later.resolve purpose path = .ok (.free location trailing) := by
  obtain ⟨accepts, reaches⟩ := resolve_eq_ok_iff.mp free
  rw [resolve_eq_ok_iff, sameDirectory]
  refine ⟨accepts, reaches.of_free retains (.inl rfl) ?_⟩
  rintro links parent name looksUp rfl
  exact .free links looksUp still

theorem resolve_new_file (retains : Retains tree.lookup? later.lookup?)
    (sameDirectory : later.workingDirectory = tree.workingDirectory)
    (free : tree.resolve .newFile path = .ok (.free location trailing))
    (held : later.lookup? location = some (.file content)) :
    later.resolve .newFile path = .ok (.found location (.file content)) := by
  obtain ⟨accepts, reaches⟩ := resolve_eq_ok_iff.mp free
  rw [resolve_eq_ok_iff, sameDirectory]
  refine ⟨accepts, reaches.of_free retains (.inl rfl) ?_⟩
  rintro links parent name looksUp rfl
  have unslashed : trailing = false := by simpa using looksUp.fits
  subst unslashed
  exact .file links looksUp held

theorem resolve_new_directory (retains : Retains tree.lookup? later.lookup?)
    (sameDirectory : later.workingDirectory = tree.workingDirectory)
    (free : tree.resolve .name path = .ok (.free location trailing))
    (held : later.lookup? location = some .directory) :
    later.resolve .target path = .ok (.found location .directory) := by
  obtain ⟨accepts, reaches⟩ := resolve_eq_ok_iff.mp free
  rw [resolve_eq_ok_iff, sameDirectory]
  refine ⟨accepts, reaches.of_free retains (.inr rfl) ?_⟩
  rintro links parent name looksUp rfl
  exact .enter looksUp held (.arrive _ _ _)

theorem destination_eq_ok_iff : tree.destination path = .ok location ↔
    (∃ content, tree.resolve .newFile path = .ok (.found location (.file content))) ∨
      ∃ trailing, tree.resolve .newFile path = .ok (.free location trailing) := by
  unfold destination
  cases resolved : tree.resolve .newFile path with
  | error cause => simp [bind, Except.bind]
  | ok place =>
      cases place with
      | free => simp [bind, Except.bind, pure, Except.pure]
      | found _ entry =>
          cases entry <;> simp [bind, Except.bind, pure, Except.pure, throw, throwThe,
            MonadExceptOf.throw]

/-- Only a file or nothing stands where a file is written to. -/
theorem lookup?_destination (written : tree.destination path = .ok location) :
    tree.lookup? location = none ∨ ∃ content, tree.lookup? location = some (.file content) := by
  rcases destination_eq_ok_iff.mp written with ⟨content, found⟩ | ⟨trailing, free⟩
  · exact .inr ⟨content, (lookup?_of_resolve found).2⟩
  · exact .inl (resolve_eq_ok_iff.mp free).2.lookup?_free

theorem destination_ne_root (written : tree.destination path = .ok location) : location ≠ [] := by
  rintro rfl
  rcases lookup?_destination written with free | ⟨content, held⟩
  · cases free
  · cases held

/-- The file that stands where a path writes to is the one that the path leads to. -/
theorem resolve_of_destination (written : tree.destination path = .ok location)
    (held : tree.lookup? location = some (.file content)) :
    tree.resolve .target path = .ok (.found location (.file content)) := by
  rcases destination_eq_ok_iff.mp written with ⟨same, found⟩ | ⟨trailing, free⟩
  · obtain rfl : same = content := by
      cases held.symm.trans (lookup?_of_resolve found).2
      rfl
    obtain ⟨accepts, reaches⟩ := resolve_eq_ok_iff.mp found
    exact resolve_eq_ok_iff.mpr ⟨accepts, reaches.target⟩
  · cases held.symm.trans (resolve_eq_ok_iff.mp free).2.lookup?_free

end Paths

structure Writes (tree : FileTree) (path : Path) (later : FileTree) : Prop where
  workingDirectory : later.workingDirectory = tree.workingDirectory
  only : ∀ location, later.lookup? location ≠ tree.lookup? location →
    tree.destination path = .ok location ∧ ∃ content, later.lookup? location = some (.file content)

namespace Writes

variable {tree middle later : FileTree} {path : Path} {location : Location}

theorem of_alike (alike : later.Alike tree) : tree.Writes path later :=
  ⟨alike.workingDirectory, fun location changed => absurd (alike.entries location) changed⟩

theorem retains (writes : tree.Writes path later) : Retains tree.lookup? later.lookup? := by
  intro location entry held
  by_cases same : later.lookup? location = tree.lookup? location
  · exact ⟨entry, same.trans held, .refl entry⟩
  · obtain ⟨written, now, heldNow⟩ := writes.only location same
    refine ⟨.file now, heldNow, ?_⟩
    rcases lookup?_destination written with free | ⟨content, file⟩
    · cases held.symm.trans free
    · cases held.symm.trans file
      exact .file content now

/-- What a path writes to stays the same when it is written. -/
theorem destination (writes : tree.Writes path later)
    (written : tree.destination path = .ok location) : later.destination path = .ok location := by
  rw [destination_eq_ok_iff]
  rcases destination_eq_ok_iff.mp written with ⟨content, found⟩ | ⟨trailing, free⟩
  · obtain ⟨_, ⟨⟩, still⟩ := resolve_found_retained writes.retains writes.workingDirectory found
    exact .inl ⟨_, still⟩
  · by_cases same : later.lookup? location = tree.lookup? location
    · have nothing := same.trans (resolve_eq_ok_iff.mp free).2.lookup?_free
      exact .inr ⟨trailing,
        resolve_free_retained writes.retains writes.workingDirectory free nothing⟩
    · obtain ⟨-, content, held⟩ := writes.only location same
      exact .inl ⟨content, resolve_new_file writes.retains writes.workingDirectory free held⟩

/-- Where nothing can be written, nothing is. -/
theorem alike_of_error {cause : SystemError} (writes : tree.Writes path later)
    (refused : tree.destination path = .error cause) : later.Alike tree := by
  refine ⟨writes.workingDirectory, fun location => Classical.byContradiction fun changed => ?_⟩
  cases refused.symm.trans (writes.only location changed).1

/-- A path is written to at the same place before and after. -/
theorem destination_before (writes : tree.Writes path later)
    (written : later.destination path = .ok location) : tree.destination path = .ok location := by
  cases reachable : tree.destination path with
  | error cause =>
      rw [(writes.alike_of_error reachable).destination, reachable] at written
      cases written
  | ok earlier =>
      rw [writes.destination reachable] at written
      exact written

theorem entries_of_ne {other : Location} (writes : tree.Writes path later)
    (written : tree.destination path = .ok location) (differs : other ≠ location) :
    later.lookup? other = tree.lookup? other := by
  refine Classical.byContradiction fun changed => differs ?_
  cases written.symm.trans (writes.only other changed).1
  rfl

theorem trans (first : tree.Writes path middle) (rest : middle.Writes path later) :
    tree.Writes path later := by
  refine ⟨rest.workingDirectory.trans first.workingDirectory, fun location changed => ?_⟩
  by_cases same : later.lookup? location = middle.lookup? location
  · rw [same] at changed ⊢
    exact first.only location changed
  · obtain ⟨written, content⟩ := rest.only location same
    exact ⟨first.destination_before written, content⟩

end Writes

structure Makes (tree : FileTree) (path : Path) (later : FileTree) : Prop where
  workingDirectory : later.workingDirectory = tree.workingDirectory
  only : ∀ location, later.lookup? location ≠ tree.lookup? location →
    tree.lookup? location = none ∧ later.lookup? location = some .directory ∧
      later.resolve .target path = .ok (.found location .directory)

namespace Makes

variable {tree later : FileTree} {path : Path}

theorem refl (tree : FileTree) (path : Path) : tree.Makes path tree :=
  ⟨rfl, fun _ changed => absurd rfl changed⟩

theorem retains (makes : tree.Makes path later) : Retains tree.lookup? later.lookup? := by
  intro location entry held
  by_cases same : later.lookup? location = tree.lookup? location
  · exact ⟨entry, same.trans held, .refl entry⟩
  · cases held.symm.trans (makes.only location same).1

end Makes

section Putting

variable {tree : FileTree} {path : Path} {location : Location}

theorem writes_put (written : tree.destination path = .ok location) (content : Content) :
    tree.Writes path (tree.put location (.file content)) := by
  refine ⟨rfl, fun other changed => ?_⟩
  obtain rfl : location = other :=
    Classical.byContradiction fun differs => changed (lookup?_put_of_ne differs)
  exact ⟨written, content, lookup?_put_self (destination_ne_root written)⟩

/-- A directory that is made stands where nothing stood, and its path leads to it. -/
theorem exists_new_directory {later : FileTree} (made : tree.makeDirectory path = .ok later) :
    ∃ location, tree.lookup? location = none ∧ later = tree.put location .directory ∧
      later.lookup? location = some .directory ∧
        later.resolve .target path = .ok (.found location .directory) := by
  obtain ⟨location, trailing, resolved, rfl⟩ := makeDirectory_eq_ok_iff.mp made
  have free := (resolve_eq_ok_iff.mp resolved).2.lookup?_free
  have below : location ≠ [] := by
    rintro rfl
    cases free
  have held : (tree.put location .directory).lookup? location = some .directory :=
    lookup?_put_self below
  exact ⟨location, free, rfl, held,
    resolve_new_directory (retains_put_of_free free _) rfl resolved held⟩

theorem makes_of_makeDirectory {later : FileTree} (made : tree.makeDirectory path = .ok later) :
    tree.Makes path later := by
  obtain ⟨location, free, rfl, held, leads⟩ := exists_new_directory made
  refine ⟨rfl, fun other changed => ?_⟩
  obtain rfl : location = other :=
    Classical.byContradiction fun differs => changed (lookup?_put_of_ne differs)
  exact ⟨free, held, leads⟩

end Putting

end FileTree

end Throughput
