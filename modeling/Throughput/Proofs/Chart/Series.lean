import Throughput.Chart.Series

/-!
The segments of a series. Their concatenation is the finite points in order, and two neighbours
among the finite points stay in one segment exactly when nothing stood between them.
-/

namespace Throughput

theorem runs_flatten (run points : List Point) :
    (runs run points).flatten = run.reverse ++ points.filter Point.isFinite := by
  induction points generalizing run with
  | nil =>
      unfold runs
      split
      · rename_i empty
        simp [List.isEmpty_iff.mp empty]
      · simp
  | cons point rest ih =>
      unfold runs
      split
      · rename_i finite
        simp [ih, finite]
      · rename_i infinite
        split
        · rename_i empty
          simp [ih, infinite, List.isEmpty_iff.mp empty]
        · simp [ih, infinite]

theorem map_some_filter_isFinite (isFinite : Nat → Bool) (pointAt : Nat → Option Point)
    (points : List Point) (base : Nat)
    (agrees : ∀ index point, points[index]? = some point →
      isFinite (base + index) = point.isFinite ∧
        (point.isFinite = true → pointAt (base + index) = some point)) :
    (points.filter Point.isFinite).map some =
      ((List.range' base points.length).filter isFinite).map pointAt := by
  induction points generalizing base with
  | nil => rfl
  | cons point rest ih =>
      obtain ⟨here, placed⟩ := agrees 0 point rfl
      have later := ih (base + 1) fun index other found => by
        have := agrees (index + 1) other (by simpa using found)
        rwa [show base + (index + 1) = base + 1 + index by omega] at this
      rw [Nat.add_zero] at here placed
      rw [List.length_cons, List.range'_succ]
      by_cases finite : point.isFinite = true
      · rw [List.filter_cons_of_pos finite, List.filter_cons_of_pos (here.trans finite),
          List.map_cons, List.map_cons, later, placed finite]
      · rw [List.filter_cons_of_neg finite, List.filter_cons_of_neg (by rwa [here]), later]

theorem ne_nil_of_mem_runs {run points segment : List Point} (member : segment ∈ runs run points) :
    segment ≠ [] := by
  induction points generalizing run with
  | nil =>
      unfold runs at member
      split at member
      · cases member
      · rename_i nonempty
        rw [List.mem_singleton.mp member]
        simpa using nonempty
  | cons point rest ih =>
      unfold runs at member
      split at member
      · exact ih member
      · split at member
        · exact ih member
        · rename_i nonempty
          rcases List.mem_cons.mp member with first | later
          · rw [first]
            simpa using nonempty
          · exact ih later

def Together (lines : List (List Point)) (place : Nat) : Prop :=
  ∃ before line after, lines = before ++ line :: after ∧ before.flatten.length ≤ place ∧
    place + 1 < before.flatten.length + line.length

theorem not_together_nil (place : Nat) : ¬Together [] place := by
  rintro ⟨before, line, after, parts, _⟩
  simp at parts

theorem together_cons_iff (line : List Point) (lines : List (List Point)) (place : Nat) :
    Together (line :: lines) place ↔
      place + 1 < line.length ∨
        line.length ≤ place ∧ Together lines (place - line.length) := by
  constructor
  · rintro ⟨before, found, after, parts, lower, upper⟩
    cases before with
    | nil =>
        left
        cases parts
        simpa using upper
    | cons first before =>
        right
        cases parts
        simp only [List.flatten_cons, List.length_append] at lower upper
        exact ⟨by omega, before, found, after, rfl, by omega, by omega⟩
  · rintro (inside | ⟨beyond, before, found, after, rfl, lower, upper⟩)
    · exact ⟨[], line, lines, rfl, by simp, by simpa using inside⟩
    · refine ⟨line :: before, found, after, rfl, ?_, ?_⟩
      · simp only [List.flatten_cons, List.length_append]
        omega
      · simp only [List.flatten_cons, List.length_append]
        omega

def Follows (rows : List Nat) (place : Nat) : Prop :=
  ∃ row, rows[place]? = some row ∧ rows[place + 1]? = some (row + 1)

theorem follows_append_iff (base count place : Nat) {later : List Nat}
    (gap : ∀ row ∈ later, base + count < row) :
    Follows (List.range' base count ++ later) place ↔
      place + 1 < count ∨ count ≤ place ∧ Follows later (place - count) := by
  unfold Follows
  rcases Nat.lt_trichotomy (place + 1) count with inside | last | beyond
  · have first : place < count := by omega
    simp [List.getElem?_append, inside, first, Nat.add_assoc]
  · have first : place < count := by omega
    simp only [List.getElem?_append, List.length_range', List.getElem?_range', first, last,
      Nat.lt_irrefl, if_true, if_false, Nat.sub_self, false_or, Nat.not_le.mpr first, false_and,
      iff_false]
    rintro ⟨row, here, found⟩
    have := gap _ (List.mem_of_getElem? found)
    have := Option.some.inj here
    omega
  · have next : place + 1 - count = place - count + 1 := by omega
    simp [List.getElem?_append, Nat.not_lt.mpr (Nat.le_of_lt_succ beyond),
      Nat.not_lt.mpr (Nat.le_of_lt beyond), next, Nat.le_of_lt_succ beyond]

def runRows (isFinite : Nat → Bool) (base count rest : Nat) : List Nat :=
  List.range' base count ++ (List.range' (base + count) rest).filter isFinite

theorem runRows_of_finite (isFinite : Nat → Bool) (base count rest : Nat)
    (finite : isFinite (base + count) = true) :
    runRows isFinite base count (rest + 1) = runRows isFinite base (count + 1) rest := by
  unfold runRows
  rw [List.range'_succ, List.filter_cons_of_pos finite, List.range'_concat]
  simp [Nat.add_assoc]

theorem runRows_of_infinite (isFinite : Nat → Bool) (base count rest : Nat)
    (infinite : isFinite (base + count) = false) :
    runRows isFinite base count (rest + 1) =
      List.range' base count ++ runRows isFinite (base + count + 1) 0 rest := by
  unfold runRows
  rw [List.range'_succ, List.filter_cons_of_neg (by simp [infinite])]
  simp

theorem lt_of_mem_runRows {isFinite : Nat → Bool} {base rest row : Nat}
    (member : row ∈ runRows isFinite (base + 1) 0 rest) : base < row := by
  have later : row ∈ (List.range' (base + 1) rest).filter isFinite := member
  have := (List.mem_range'_1.mp (List.mem_filter.mp later).1).1
  omega

theorem together_runs_iff (isFinite : Nat → Bool) (points run : List Point) (base place : Nat)
    (agrees : ∀ index point, points[index]? = some point →
      isFinite (base + run.length + index) = point.isFinite) :
    Together (runs run points) place ↔
      Follows (runRows isFinite base run.length points.length) place := by
  induction points generalizing run base place with
  | nil =>
      have rows : runRows isFinite base run.length 0 = List.range' base run.length ++ [] := rfl
      rw [List.length_nil, rows, follows_append_iff base run.length place (by simp)]
      have none (place : Nat) : ¬Follows [] place := by simp [Follows]
      unfold runs
      split
      · rename_i empty
        simp [not_together_nil, none, List.isEmpty_iff.mp empty]
      · simp [together_cons_iff, not_together_nil, none]
  | cons point rest ih =>
      have here := agrees 0 point rfl
      rw [Nat.add_zero] at here
      have agreesRest (index : Nat) (later : Point) (found : rest[index]? = some later) :
          isFinite (base + run.length + 1 + index) = later.isFinite := by
        have := agrees (index + 1) later (by simpa using found)
        rwa [show base + run.length + (index + 1) = base + run.length + 1 + index by omega] at this
      rw [List.length_cons]
      unfold runs
      by_cases finite : point.isFinite = true
      · rw [if_pos finite, runRows_of_finite _ _ _ _ (here.trans finite)]
        exact ih (point :: run) base place
          (by simpa [Nat.add_assoc, Nat.add_comm, Nat.add_left_comm] using agreesRest)
      · rw [if_neg finite, runRows_of_infinite _ _ _ _ (here.trans (by simpa using finite)),
          follows_append_iff base run.length place fun row => lt_of_mem_runRows]
        have later := ih [] (base + run.length + 1) (place - run.length)
          (by simpa using agreesRest)
        split
        · rename_i empty
          have none := List.isEmpty_iff.mp empty
          simpa [none] using later
        · rw [together_cons_iff, List.length_reverse]
          exact or_congr Iff.rfl (and_congr Iff.rfl later)

end Throughput
