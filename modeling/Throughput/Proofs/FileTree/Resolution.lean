import Throughput.FileTree.Access

/-!
Where paths lead in a file tree. The places that a path reaches are given by rules for its names;
as long as directories and links are kept and files stay files, it goes on reaching them.
-/

namespace Throughput

inductive Entry.Keeps : Entry → Entry → Prop
  | directory : Keeps .directory .directory
  | link (target : Path) : Keeps (.link target) (.link target)
  | file (content later : Content) : Keeps (.file content) (.file later)

theorem Entry.Keeps.refl (entry : Entry) : entry.Keeps entry := by
  cases entry with
  | file content => exact .file content content
  | link target => exact .link target
  | directory => exact .directory

namespace FileTree

section Lookup

variable {tree : FileTree} {location other : Location} {entry : Entry}

theorem find?_putIn (entries : List (Location × Entry)) :
    ((putIn location entry entries).find? fun held => held.1 == other) =
      if location = other then some (location, entry)
      else entries.find? fun held => held.1 == other := by
  induction entries with
  | nil => by_cases same : location = other <;> simp [putIn, same]
  | cons held rest ih =>
      unfold putIn
      by_cases replaced : held.1 = location
      · by_cases same : location = other <;> simp [replaced, same]
      · rw [if_neg replaced, List.find?_cons, List.find?_cons, ih]
        by_cases same : location = other
        · subst same
          have unequal : (held.1 == location) = false := beq_eq_false_iff_ne.mpr replaced
          simp [unequal]
        · simp [same]

theorem lookup?_put_of_ne (differs : location ≠ other) :
    (tree.put location entry).lookup? other = tree.lookup? other := by
  unfold lookup? put
  rw [find?_putIn, if_neg differs]

theorem lookup?_put_self (below : location ≠ []) :
    (tree.put location entry).lookup? location = some entry := by
  unfold lookup? put
  rw [find?_putIn, if_pos rfl, if_neg (by simpa using below)]
  rfl

end Lookup

structure LooksUp (purpose : Purpose) (slashed : Bool) (name : List UInt8)
    (rest : List (List UInt8)) : Prop where
  notHere : name ≠ Path.here
  notAbove : name ≠ Path.above
  fits : ¬(rest.isEmpty && slashed && purpose == .newFile) = true
  short : ¬name.length > Path.nameLimit

/-- Names lead from a directory to a place, through at most the given number of links. -/
inductive Reaches (lookup? : Location → Option Entry) (purpose : Purpose) :
    Nat → Bool → Location → List (List UInt8) → Place → Prop
  | arrive (links : Nat) (slashed : Bool) (directory : Location) :
      Reaches lookup? purpose links slashed directory [] (.found directory .directory)
  | stay {links : Nat} {slashed : Bool} {directory : Location} {rest : List (List UInt8)}
      {place : Place} (onward : Reaches lookup? purpose links slashed directory rest place) :
      Reaches lookup? purpose links slashed directory (Path.here :: rest) place
  | climb {links : Nat} {slashed : Bool} {directory : Location} {rest : List (List UInt8)}
      {place : Place}
      (onward : Reaches lookup? purpose links slashed directory.dropLast rest place) :
      Reaches lookup? purpose links slashed directory (Path.above :: rest) place
  | free (links : Nat) {slashed : Bool} {directory : Location} {name : List UInt8}
      (looksUp : LooksUp purpose slashed name []) (free : lookup? (directory ++ [name]) = none) :
      Reaches lookup? purpose links slashed directory [name] (.free (directory ++ [name]) slashed)
  | file (links : Nat) {directory : Location} {name : List UInt8} {content : Content}
      (looksUp : LooksUp purpose false name [])
      (held : lookup? (directory ++ [name]) = some (.file content)) :
      Reaches lookup? purpose links false directory [name]
        (.found (directory ++ [name]) (.file content))
  | enter {links : Nat} {slashed : Bool} {directory : Location} {name : List UInt8}
      {rest : List (List UInt8)} {place : Place} (looksUp : LooksUp purpose slashed name rest)
      (held : lookup? (directory ++ [name]) = some .directory)
      (onward : Reaches lookup? purpose links slashed (directory ++ [name]) rest place) :
      Reaches lookup? purpose links slashed directory (name :: rest) place
  | link (links : Nat) {slashed : Bool} {directory : Location} {name : List UInt8} {target : Path}
      (looksUp : LooksUp purpose slashed name []) (named : purpose = .name)
      (held : lookup? (directory ++ [name]) = some (.link target)) :
      Reaches lookup? purpose links slashed directory [name]
        (.found (directory ++ [name]) (.link target))
  | follow {links : Nat} {slashed : Bool} {directory : Location} {name : List UInt8}
      {rest : List (List UInt8)} {target : Path} {place : Place}
      (looksUp : LooksUp purpose slashed name rest)
      (held : lookup? (directory ++ [name]) = some (.link target))
      (followed : ¬(rest.isEmpty && purpose == .name) = true)
      (onward : Reaches lookup? purpose links (slashed || (rest.isEmpty && target.endsWithSlash))
        (target.origin directory) (target.names ++ rest) place) :
      Reaches lookup? purpose (links + 1) slashed directory (name :: rest) place

def beyond (lookup? : Location → Option Entry) (purpose : Purpose) :
    Nat → Location → Route → Except SystemError Place
  | 0, _, _ => .error .tooManyLinks
  | links + 1, directory, route => follow lookup? purpose links directory route

section Rules

variable {lookup? : Location → Option Entry} {purpose : Purpose} {links : Nat} {slashed : Bool}
  {directory : Location} {names : List (List UInt8)} {place : Place}

theorem follow_eq_visit (route : Route) : follow lookup? purpose links directory route =
    visit lookup? purpose route.slashed (beyond lookup? purpose links) directory route.names := by
  cases links <;> rfl

theorem LooksUp.visit_eq {onLink : Location → Route → Except SystemError Place}
    {name : List UInt8} {rest : List (List UInt8)} (looksUp : LooksUp purpose slashed name rest) :
    visit lookup? purpose slashed onLink directory (name :: rest) =
      match lookup? (directory ++ [name]) with
      | none => if rest.isEmpty then .ok (.free (directory ++ [name]) slashed) else .error .notFound
      | some (.file content) =>
        if rest.isEmpty && !slashed then .ok (.found (directory ++ [name]) (.file content))
        else .error .notADirectory
      | some .directory => visit lookup? purpose slashed onLink (directory ++ [name]) rest
      | some (.link target) =>
        if rest.isEmpty && purpose == .name then .ok (.found (directory ++ [name]) (.link target))
        else onLink (target.origin directory)
          ⟨target.names ++ rest, slashed || (rest.isEmpty && target.endsWithSlash)⟩ := by
  rw [visit]
  exact (if_neg looksUp.notHere).trans ((if_neg looksUp.notAbove).trans
    ((if_neg looksUp.fits).trans (if_neg looksUp.short)))

theorem visit_of_reaches (reaches : Reaches lookup? purpose links slashed directory names place) :
    visit lookup? purpose slashed (beyond lookup? purpose links) directory names = .ok place := by
  induction reaches with
  | arrive => rfl
  | stay onward ih => rwa [visit, if_pos rfl]
  | climb onward ih => rwa [visit, if_neg (by decide), if_pos rfl]
  | free links looksUp free =>
      rw [looksUp.visit_eq, free]
      rfl
  | file links looksUp held =>
      rw [looksUp.visit_eq, held]
      rfl
  | enter looksUp held onward ih =>
      rw [looksUp.visit_eq, held]
      exact ih
  | link links looksUp named held =>
      rw [looksUp.visit_eq, held, named]
      rfl
  | follow looksUp held followed onward ih =>
      rw [looksUp.visit_eq, held]
      simp only [if_neg followed]
      rw [beyond, follow_eq_visit]
      exact ih

/-- What is reached in one directory, from what is reached behind links. -/
theorem reaches_of_visit
    (linked : ∀ directory route place, beyond lookup? purpose links directory route = .ok place →
      ∃ fewer, links = fewer + 1 ∧
        Reaches lookup? purpose fewer route.slashed directory route.names place)
    (visited : visit lookup? purpose slashed (beyond lookup? purpose links) directory names =
      .ok place) : Reaches lookup? purpose links slashed directory names place := by
  induction names generalizing directory with
  | nil =>
      cases visited
      exact .arrive links slashed directory
  | cons name rest ih =>
      by_cases here : name = Path.here
      · subst here
        rw [visit, if_pos rfl] at visited
        exact .stay (ih visited)
      by_cases above : name = Path.above
      · subst above
        rw [visit, if_neg here, if_pos rfl] at visited
        exact .climb (ih visited)
      by_cases fits : (rest.isEmpty && slashed && purpose == .newFile) = true
      · rw [visit, if_neg here, if_neg above, if_pos fits] at visited
        cases visited
      by_cases short : name.length > Path.nameLimit
      · rw [visit, if_neg here, if_neg above, if_neg fits, if_pos short] at visited
        cases visited
      have looksUp : LooksUp purpose slashed name rest := ⟨here, above, fits, short⟩
      rw [looksUp.visit_eq] at visited
      cases held : lookup? (directory ++ [name]) with
      | none =>
          rw [held] at visited
          cases rest with
          | nil =>
              cases visited
              exact .free links looksUp held
          | cons _ _ => cases visited
      | some entry =>
          rw [held] at visited
          cases entry with
          | file content =>
              cases rest with
              | nil =>
                  cases slashed with
                  | false =>
                      cases visited
                      exact .file links looksUp held
                  | true => cases visited
              | cons _ _ => cases visited
          | directory => exact .enter looksUp held (ih visited)
          | link target =>
              by_cases named : (rest.isEmpty && purpose == .name) = true
              · simp only [if_pos named] at visited
                cases visited
                simp only [Bool.and_eq_true, List.isEmpty_iff, beq_iff_eq] at named
                obtain ⟨rfl, rfl⟩ := named
                exact .link links looksUp rfl held
              · simp only [if_neg named] at visited
                obtain ⟨fewer, rfl, onward⟩ := linked _ _ _ visited
                exact .follow looksUp held named onward

theorem follow_eq_ok_iff {route : Route} :
    follow lookup? purpose links directory route = .ok place ↔
      Reaches lookup? purpose links route.slashed directory route.names place := by
  rw [follow_eq_visit]
  refine ⟨?_, visit_of_reaches⟩
  induction links generalizing directory route place with
  | zero => exact reaches_of_visit (fun _ _ _ impossible => by cases impossible)
  | succ links ih =>
      refine reaches_of_visit fun directory route place found => ⟨links, rfl, ?_⟩
      rw [beyond, follow_eq_visit] at found
      exact ih found

/-- A file is reached only where no slash follows its name. -/
theorem Reaches.not_slashed {location : Location} {content : Content}
    (reaches : Reaches lookup? purpose links slashed directory names
      (.found location (.file content))) : slashed = false := by
  generalize reached : Place.found location (.file content) = place at reaches
  induction reaches with
  | arrive | free | link => cases reached
  | file => rfl
  | stay _ ih | climb _ ih | enter _ _ _ ih => exact ih reached
  | follow _ _ _ _ ih => exact (Bool.or_eq_false_iff.mp (ih reached)).1

theorem Reaches.lookup?_file {location : Location} {content : Content}
    (reaches : Reaches lookup? purpose links slashed directory names
      (.found location (.file content))) :
    location ≠ [] ∧ lookup? location = some (.file content) := by
  generalize reached : Place.found location (.file content) = place at reaches
  induction reaches with
  | arrive | free | link => cases reached
  | file links looksUp held =>
      cases reached
      exact ⟨by simp, held⟩
  | stay _ ih | climb _ ih | enter _ _ _ ih | follow _ _ _ _ ih => exact ih reached

theorem Reaches.lookup?_free {location : Location} {trailing : Bool}
    (reaches : Reaches lookup? purpose links slashed directory names (.free location trailing)) :
    lookup? location = none := by
  generalize reached : Place.free location trailing = place at reaches
  induction reaches with
  | arrive | file | link => cases reached
  | free links looksUp free =>
      cases reached
      exact free
  | stay _ ih | climb _ ih | enter _ _ _ ih | follow _ _ _ _ ih => exact ih reached

theorem LooksUp.newFile {name : List UInt8} {rest : List (List UInt8)}
    (looksUp : LooksUp purpose slashed name rest) (unslashed : slashed = false) :
    LooksUp .newFile slashed name rest :=
  ⟨looksUp.notHere, looksUp.notAbove, by simp [unslashed], looksUp.short⟩

/-- A file that a path leads to is the one that is written through the path. -/
theorem Reaches.newFile {location : Location} {content : Content}
    (reaches : Reaches lookup? .target links slashed directory names
      (.found location (.file content))) :
    Reaches lookup? .newFile links slashed directory names (.found location (.file content)) := by
  have unslashed := reaches.not_slashed
  generalize reached : Place.found location (.file content) = place at reaches ⊢
  induction reaches with
  | arrive | free | link => cases reached
  | file links looksUp held => exact .file links (looksUp.newFile unslashed) held
  | stay _ ih => exact .stay (ih unslashed reached)
  | climb _ ih => exact .climb (ih unslashed reached)
  | enter looksUp held _ ih => exact .enter (looksUp.newFile unslashed) held (ih unslashed reached)
  | follow looksUp held _ onward ih =>
      have still := (reached ▸ onward).not_slashed
      exact .follow (looksUp.newFile unslashed) held (by simp) (ih still reached)

structure EndsInName (slashed : Bool) (names : List (List UInt8)) : Prop where
  unslashed : slashed = false
  named : ∃ name, names.getLast? = some name ∧ name ≠ Path.here ∧ name ≠ Path.above

theorem EndsInName.cons {rest : List (List UInt8)} (ends : EndsInName slashed rest)
    (name : List UInt8) : EndsInName slashed (name :: rest) := by
  obtain ⟨unslashed, last, isLast, plain⟩ := ends
  refine ⟨unslashed, last, ?_, plain⟩
  rw [List.getLast?_cons, isLast]
  rfl

theorem LooksUp.endsInName {name : List UInt8} (looksUp : LooksUp purpose slashed name [])
    (unslashed : slashed = false) : EndsInName slashed [name] :=
  ⟨unslashed, name, rfl, looksUp.notHere, looksUp.notAbove⟩

/-- Where a file could be made, a path that leads to no directory ends in the name of an entry. -/
theorem Reaches.endsInName
    (reaches : Reaches lookup? .newFile links slashed directory names place)
    (noDirectory : ∀ location, place ≠ .found location .directory) :
    EndsInName slashed names := by
  induction reaches with
  | arrive links slashed directory => exact absurd rfl (noDirectory directory)
  | stay _ ih | climb _ ih | enter _ _ _ ih => exact (ih noDirectory).cons _
  | free links looksUp => exact looksUp.endsInName (by simpa using looksUp.fits)
  | file links looksUp => exact looksUp.endsInName rfl
  | link links looksUp named => cases named
  | @follow _ _ _ name rest target _ looksUp _ _ _ ih =>
      obtain ⟨unslashed, last, isLast, plain⟩ := ih noDirectory
      have before := (Bool.or_eq_false_iff.mp unslashed).1
      -- A link at the end is itself the name; otherwise the names behind it decide.
      cases rest with
      | nil => exact looksUp.endsInName before
      | cons next later =>
          have behind : EndsInName _ (next :: later) := ⟨before, last, by
            rw [List.getLast?_append] at isLast
            simpa [List.getLast?_cons] using isLast, plain⟩
          exact behind.cons name

def Retains (before after : Location → Option Entry) : Prop :=
  ∀ location entry, before location = some entry →
    ∃ later, after location = some later ∧ entry.Keeps later

theorem Reaches.retained {before after : Location → Option Entry} (retains : Retains before after)
    {location : Location} {entry : Entry}
    (reaches : Reaches before purpose links slashed directory names (.found location entry)) :
    ∃ later, entry.Keeps later ∧
      Reaches after purpose links slashed directory names (.found location later) := by
  generalize reached : Place.found location entry = place at reaches
  induction reaches with
  | arrive =>
      cases reached
      exact ⟨.directory, .directory, .arrive _ _ _⟩
  | free => cases reached
  | file links looksUp held =>
      cases reached
      obtain ⟨_, still, ⟨⟩⟩ := retains _ _ held
      exact ⟨_, .file _ _, .file links looksUp still⟩
  | link links looksUp named held =>
      cases reached
      obtain ⟨_, still, ⟨⟩⟩ := retains _ _ held
      exact ⟨_, .link _, .link links looksUp named still⟩
  | stay _ ih =>
      obtain ⟨later, keeps, onward⟩ := ih reached
      exact ⟨later, keeps, .stay onward⟩
  | climb _ ih =>
      obtain ⟨later, keeps, onward⟩ := ih reached
      exact ⟨later, keeps, .climb onward⟩
  | enter looksUp held _ ih =>
      obtain ⟨later, keeps, onward⟩ := ih reached
      obtain ⟨_, still, ⟨⟩⟩ := retains _ _ held
      exact ⟨later, keeps, .enter looksUp still onward⟩
  | follow looksUp held followed _ ih =>
      obtain ⟨later, keeps, onward⟩ := ih reached
      obtain ⟨_, still, ⟨⟩⟩ := retains _ _ held
      exact ⟨later, keeps, .follow looksUp still followed onward⟩

end Rules

structure Accepts (path : Path) : Prop where
  clean : ¬path.bytes.contains 0 = true
  nonempty : ¬path.bytes.isEmpty = true
  short : ¬path.bytes.length > Path.lengthLimit

section Paths

variable {tree later : FileTree} {purpose : Purpose} {path : Path} {place : Place}
  {location : Location} {entry : Entry} {content : Content}

theorem resolve_eq_ok_iff : tree.resolve purpose path = .ok place ↔ Accepts path ∧
    Reaches tree.lookup? purpose linkLimit path.endsWithSlash
      (path.origin tree.workingDirectory) path.names place := by
  unfold resolve
  constructor
  · intro resolved
    split at resolved
    · cases resolved
    · split at resolved
      · cases resolved
      · split at resolved
        · cases resolved
        · exact ⟨⟨‹_›, ‹_›, ‹_›⟩, follow_eq_ok_iff.mp resolved⟩
  · rintro ⟨accepts, reaches⟩
    rw [if_neg accepts.clean, if_neg accepts.nonempty, if_neg accepts.short]
    exact follow_eq_ok_iff.mpr reaches

theorem look_eq_ok_iff : tree.look path = .ok entry ↔
    ∃ location, tree.resolve .target path = .ok (.found location entry) := by
  unfold look
  cases resolved : tree.resolve .target path with
  | error cause => simp [bind, Except.bind]
  | ok place => cases place <;> simp [bind, Except.bind, pure, Except.pure, throw, throwThe,
      MonadExceptOf.throw]

/-- A path goes on leading to the location of a file, and finds what stands there now. -/
theorem resolve_file_retained (retains : Retains tree.lookup? later.lookup?)
    (sameDirectory : later.workingDirectory = tree.workingDirectory) {now : Content}
    (found : tree.resolve purpose path = .ok (.found location (.file content)))
    (held : later.lookup? location = some (.file now)) :
    later.resolve purpose path = .ok (.found location (.file now)) := by
  obtain ⟨accepts, reaches⟩ := resolve_eq_ok_iff.mp found
  obtain ⟨_, ⟨⟩, still⟩ := reaches.retained retains
  cases held.symm.trans still.lookup?_file.2
  rw [resolve_eq_ok_iff, sameDirectory]
  exact ⟨accepts, still⟩

theorem destination_of_resolve
    (found : tree.resolve .target path = .ok (.found location (.file content))) :
    tree.destination path = .ok location := by
  obtain ⟨accepts, reaches⟩ := resolve_eq_ok_iff.mp found
  have written : tree.resolve .newFile path = .ok (.found location (.file content)) :=
    resolve_eq_ok_iff.mpr ⟨accepts, reaches.newFile⟩
  rw [destination, written]
  rfl

/-- Only a path that ends in the name of an entry can be written to. -/
theorem endsInName_of_destination (written : tree.destination path = .ok location) :
    EndsInName path.endsWithSlash path.names := by
  unfold destination at written
  cases resolved : tree.resolve .newFile path with
  | error cause =>
      rw [resolved] at written
      cases written
  | ok place =>
      refine (resolve_eq_ok_iff.mp resolved).2.endsInName ?_
      rintro directory rfl
      rw [resolved] at written
      cases written

theorem lookup?_of_resolve
    (found : tree.resolve purpose path = .ok (.found location (.file content))) :
    location ≠ [] ∧ tree.lookup? location = some (.file content) :=
  (resolve_eq_ok_iff.mp found).2.lookup?_file

/-- Something new at a free location takes nothing away. -/
theorem retains_put_of_free (free : tree.lookup? location = none) (entry : Entry) :
    Retains tree.lookup? (tree.put location entry).lookup? := by
  intro other held looked
  have differs : location ≠ other := by
    rintro rfl
    cases free.symm.trans looked
  exact ⟨held, (lookup?_put_of_ne differs).trans looked, .refl held⟩

theorem retains_put_file (below : location ≠ [])
    (held : tree.lookup? location = some (.file content)) (now : Content) :
    Retains tree.lookup? (tree.put location (.file now)).lookup? := by
  intro other entry looked
  by_cases same : location = other
  · subst same
    cases held.symm.trans looked
    exact ⟨.file now, lookup?_put_self below, .file content now⟩
  · exact ⟨entry, (lookup?_put_of_ne same).trans looked, .refl entry⟩

theorem look_put_file (found : tree.resolve .target path = .ok (.found location (.file content)))
    (now : Content) : (tree.put location (.file now)).look path = .ok (.file now) := by
  obtain ⟨below, held⟩ := lookup?_of_resolve found
  exact look_eq_ok_iff.mpr ⟨location,
    resolve_file_retained (retains_put_file below held now) rfl found (lookup?_put_self below)⟩

theorem makeDirectory_eq_ok_iff : tree.makeDirectory path = .ok later ↔
    ∃ location trailing, tree.resolve .name path = .ok (.free location trailing) ∧
      later = tree.put location .directory := by
  unfold makeDirectory
  cases resolved : tree.resolve .name path with
  | error cause => simp [bind, Except.bind]
  | ok place => cases place <;> simp [bind, Except.bind, pure, Except.pure, throw, throwThe,
      MonadExceptOf.throw, eq_comm]

/-- A new directory leaves every file where it is. -/
theorem resolve_file_of_makeDirectory {directory : Path}
    (made : tree.makeDirectory directory = .ok later)
    (found : tree.resolve purpose path = .ok (.found location (.file content))) :
    later.resolve purpose path = .ok (.found location (.file content)) := by
  obtain ⟨new, trailing, resolved, rfl⟩ := makeDirectory_eq_ok_iff.mp made
  have free := (resolve_eq_ok_iff.mp resolved).2.lookup?_free
  have held := (lookup?_of_resolve found).2
  have differs : new ≠ location := by
    rintro rfl
    cases free.symm.trans held
  exact resolve_file_retained (retains_put_of_free free _) rfl found
    ((lookup?_put_of_ne differs).trans held)

end Paths

end FileTree

end Throughput
