import Mathlib.Data.List.DropRight
import Throughput.Proofs.Chart.Series

/-!
The segments of a series are its maximal runs of finite points, each at its place. Runs are
collected separately on the two sides of a gap, so that a run between gaps is a segment of its own;
and a list of lines that keeps neighbours together and cuts at gaps is the list of segments.
-/

namespace Throughput

structure MaximalRun (points front line back : List Point) : Prop where
  parts : points = front ++ line ++ back
  nonempty : line ≠ []
  finite : ∀ point ∈ line, point.isFinite = true
  opened : ∀ point, front.getLast? = some point → point.isFinite = false
  closed : ∀ point, back.head? = some point → point.isFinite = false

/-- The points with these two numbers, counted through all lines, stand on one line. -/
def SameLine (lines : List (List Point)) (first last : Nat) : Prop :=
  ∃ before line after, lines = before ++ line :: after ∧ before.flatten.length ≤ first ∧
    last < before.flatten.length + line.length

def finiteCount (points : List Point) : Nat := points.countP Point.isFinite

structure CutAtGaps (points : List Point) (lines : List (List Point)) : Prop where
  nonempty : ∀ line ∈ lines, line ≠ []
  finite : ∀ line ∈ lines, ∀ point ∈ line, point.isFinite = true
  shown : lines.flatten = points.filter Point.isFinite
  joined : ∀ before first second after, points = before ++ first :: second :: after →
    first.isFinite = true → second.isFinite = true →
      SameLine lines (finiteCount before) (finiteCount before + 1)
  cut : ∀ before first between gap behind last after,
    points = before ++ first :: between ++ gap :: behind ++ last :: after →
      first.isFinite = true → gap.isFinite = false → last.isFinite = true →
        ¬SameLine lines (finiteCount before)
          (finiteCount (before ++ first :: between ++ gap :: behind))

variable {points front line back : List Point} {lines others : List (List Point)}

theorem runs_append_gap (run front back : List Point) {gap : Point}
    (infinite : gap.isFinite = false) :
    runs run (front ++ gap :: back) = runs run front ++ runs [] back := by
  induction front generalizing run with
  | nil =>
      rw [List.nil_append, runs, runs, infinite]
      cases run <;> simp
  | cons point rest ih =>
      rw [List.cons_append, runs, runs]
      split
      · exact ih _
      · split
        · exact ih _
        · rw [ih, List.cons_append]

theorem runs_of_finite (run : List Point) (finite : ∀ point ∈ line, point.isFinite = true)
    (nonempty : run.reverse ++ line ≠ []) : runs run line = [run.reverse ++ line] := by
  induction line generalizing run with
  | nil =>
      have collected : run ≠ [] := by simpa using nonempty
      simp [runs, collected]
  | cons point rest ih =>
      obtain ⟨here, later⟩ := List.forall_mem_cons.mp finite
      rw [runs, if_pos here, ih (point :: run) later (by simp)]
      simp

/-- A maximal run is a segment; those of the parts around it stand on its two sides. -/
theorem MaximalRun.runs_eq (maximal : MaximalRun points front line back) :
    runs [] points = runs [] front ++ line :: runs [] back := by
  have ending : runs [] (line ++ back) = line :: runs [] back := by
    have alone := runs_of_finite [] maximal.finite (by simpa using maximal.nonempty)
    cases back with
    | nil => simpa [runs] using alone
    | cons gap behind =>
        have infinite := maximal.closed gap rfl
        rw [runs_append_gap [] line behind infinite, alone]
        simp [runs, infinite]
  rw [maximal.parts, List.append_assoc, ← ending]
  cases found : front.getLast? with
  | none =>
      rw [List.getLast?_eq_none_iff.mp found]
      rfl
  | some gap =>
      obtain ⟨earlier, rfl⟩ := List.getLast?_eq_some_iff.mp found
      have infinite := maximal.opened gap found
      have closed : runs [] (earlier ++ [gap]) = runs [] earlier := by
        rw [runs_append_gap [] earlier [] infinite]
        simp [runs]
      rw [closed, List.append_assoc, List.singleton_append, runs_append_gap [] earlier _ infinite]

theorem length_flatten_runs (points : List Point) :
    (runs [] points).flatten.length = finiteCount points := by
  rw [runs_flatten, finiteCount, List.countP_eq_length_filter]
  simp

/-- Finite points in a row are a part of a maximal run. -/
theorem exists_maximalRun (before block after : List Point) (nonempty : block ≠ [])
    (finite : ∀ point ∈ block, point.isFinite = true) :
    ∃ front left right back, before = front ++ left ∧ after = right ++ back ∧
      MaximalRun (before ++ block ++ after) front (left ++ block ++ right) back := by
  have beforeParts : before = before.rdropWhile Point.isFinite ++ before.rtakeWhile Point.isFinite :=
    List.rdropWhile_append_rtakeWhile.symm
  have afterParts : after = after.takeWhile Point.isFinite ++ after.dropWhile Point.isFinite :=
    List.takeWhile_append_dropWhile.symm
  refine ⟨_, _, _, _, beforeParts, afterParts, ?_⟩
  constructor
  · rw [← List.append_assoc, ← List.append_assoc, ← beforeParts,
      List.append_assoc (before ++ block), ← afterParts]
  · simp [nonempty]
  · intro point member
    rcases List.mem_append.mp member with earlier | right
    · rcases List.mem_append.mp earlier with left | inside
      · exact List.mem_rtakeWhile_imp left
      · exact finite point inside
    · exact List.mem_takeWhile_imp right
  · intro point found
    have remaining : before.rdropWhile Point.isFinite ≠ [] := by
      intro empty
      rw [empty] at found
      cases found
    have last := List.rdropWhile_last_not Point.isFinite before remaining
    rw [List.getLast?_eq_some_getLast remaining, Option.some.injEq] at found
    rwa [found, Bool.not_eq_true] at last
  · intro point found
    have first := List.head?_dropWhile_not Point.isFinite after
    rw [found] at first
    simpa using first

theorem finiteCount_append (front back : List Point) :
    finiteCount (front ++ back) = finiteCount front + finiteCount back :=
  List.countP_append

theorem finiteCount_of_finite (finite : ∀ point ∈ line, point.isFinite = true) :
    finiteCount line = line.length :=
  List.countP_eq_length.mpr finite

/-- No line goes across the end of the lines in front. -/
theorem not_sameLine_append {first last : Nat} (below : first < lines.flatten.length)
    (above : lines.flatten.length ≤ last) : ¬SameLine (lines ++ others) first last := by
  rintro ⟨before, line, after, parts, start, stop⟩
  rcases List.append_eq_append_iff.mp parts with ⟨middle, rfl, -⟩ | ⟨middle, rfl, rest⟩
  · rw [List.flatten_append, List.length_append] at start
    omega
  · cases middle with
    | nil =>
        simp only [List.append_nil] at below above
        omega
    | cons other middle =>
        obtain ⟨rfl, -⟩ := List.cons_eq_cons.mp rest
        simp only [List.flatten_append, List.flatten_cons, List.length_append] at below above
        omega

theorem runs_joined (before : List Point) {first second : Point} (after : List Point)
    (firstFinite : first.isFinite = true) (secondFinite : second.isFinite = true) :
    SameLine (runs [] (before ++ first :: second :: after)) (finiteCount before)
      (finiteCount before + 1) := by
  obtain ⟨front, left, right, back, rfl, rfl, maximal⟩ :=
    exists_maximalRun before [first, second] after (by simp) (by simp [firstFinite, secondFinite])
  have leftFinite (point : Point) (member : point ∈ left) : point.isFinite = true :=
    maximal.finite point (by simp [member])
  have lines := maximal.runs_eq
  simp only [List.append_assoc, List.cons_append, List.nil_append] at lines ⊢
  refine ⟨_, _, _, lines, ?_, ?_⟩
  · rw [length_flatten_runs, finiteCount_append]
    omega
  · rw [length_flatten_runs, finiteCount_append, finiteCount_of_finite leftFinite]
    simp only [List.length_append, List.length_cons]
    omega

theorem runs_cut (before behind : List Point) {gap : Point} (infinite : gap.isFinite = false)
    {first last : Nat} (below : first < finiteCount before) (above : finiteCount before ≤ last) :
    ¬SameLine (runs [] (before ++ gap :: behind)) first last := by
  rw [runs_append_gap [] before behind infinite]
  rw [← length_flatten_runs] at below above
  exact not_sameLine_append below above

theorem runs_cutAtGaps (points : List Point) : CutAtGaps points (runs [] points) := by
  constructor
  · exact fun line member => ne_nil_of_mem_runs member
  · intro line member point held
    have shown : point ∈ (runs [] points).flatten := List.mem_flatten.mpr ⟨line, member, held⟩
    rw [runs_flatten, List.reverse_nil, List.nil_append] at shown
    exact (List.mem_filter.mp shown).2
  · rw [runs_flatten, List.reverse_nil, List.nil_append]
  · rintro before first second after rfl firstFinite secondFinite
    exact runs_joined before after firstFinite secondFinite
  · rintro before first between gap behind last after rfl firstFinite infinite -
    rw [List.append_assoc (before ++ first :: between), List.cons_append]
    refine runs_cut _ _ infinite ?_ ?_
    · rw [finiteCount_append]
      simp [finiteCount, firstFinite]
    · rw [finiteCount_append (before ++ first :: between)]
      omega

/-! Only one list of lines is cut at the gaps. -/

theorem SameLine.lt_length {first last : Nat} (same : SameLine lines first last) :
    last < lines.flatten.length := by
  obtain ⟨before, line, after, rfl, -, stop⟩ := same
  simp only [List.flatten_append, List.flatten_cons, List.length_append]
  omega

theorem finiteCount_of_gaps (gaps : ∀ point ∈ points, point.isFinite = false) :
    finiteCount points = 0 :=
  List.countP_eq_zero.mpr fun point member => by simp [gaps point member]

/-- Two finite points with successive numbers have only gaps between them. -/
theorem exists_successive {place : Nat} (inside : place + 1 < finiteCount points) :
    ∃ before first between last after, points = before ++ first :: between ++ last :: after ∧
      first.isFinite = true ∧ last.isFinite = true ∧ finiteCount before = place ∧
      ∀ point ∈ between, point.isFinite = false := by
  obtain ⟨earlier, first, last, later, split, rfl⟩ :
      ∃ earlier first last later,
        points.filter Point.isFinite = earlier ++ first :: last :: later ∧
          earlier.length = place := by
    have kept : place + 1 < (points.filter Point.isFinite).length := by
      rwa [← List.countP_eq_length_filter]
    have split := List.take_append_drop place (points.filter Point.isFinite)
    rw [List.drop_eq_getElem_cons (Nat.lt_of_succ_lt kept), List.drop_eq_getElem_cons kept] at split
    exact ⟨_, _, _, _, split.symm, List.length_take_of_le (by omega)⟩
  obtain ⟨front, rest, rfl, rfl, others⟩ := List.filter_eq_append_iff.mp split
  obtain ⟨gaps, rest, rfl, noneInGaps, firstFinite, others⟩ := List.filter_eq_cons_iff.mp others
  obtain ⟨between, after, rfl, noneBetween, lastFinite, -⟩ := List.filter_eq_cons_iff.mp others
  refine ⟨front ++ gaps, first, between, last, after, by simp, firstFinite, lastFinite, ?_, ?_⟩
  · have none : finiteCount gaps = 0 :=
      finiteCount_of_gaps fun point member => by simpa using noneInGaps point member
    rw [finiteCount_append, none, ← List.countP_eq_length_filter]
    rfl
  · intro point member
    simpa using noneBetween point member

/-- Whether two points with successive numbers share a line depends only on the points. -/
theorem CutAtGaps.together_iff (split : CutAtGaps points lines) (place : Nat) :
    SameLine lines place (place + 1) ↔ ∃ before first second after,
      points = before ++ first :: second :: after ∧ first.isFinite = true ∧
        second.isFinite = true ∧ finiteCount before = place := by
  constructor
  · intro same
    have inside := same.lt_length
    rw [split.shown, ← List.countP_eq_length_filter] at inside
    obtain ⟨before, first, between, last, after, parts, firstFinite, lastFinite, rfl, gaps⟩ :=
      exists_successive inside
    cases between with
    | nil => exact ⟨before, first, last, after, by simpa using parts, firstFinite, lastFinite, rfl⟩
    | cons gap behind =>
        obtain ⟨infinite, others⟩ := List.forall_mem_cons.mp gaps
        have apart := split.cut before first [] gap behind last after (by simpa using parts)
          firstFinite infinite lastFinite
        have next : finiteCount (before ++ [first] ++ gap :: behind) = finiteCount before + 1 := by
          rw [finiteCount_append, finiteCount_append, finiteCount_of_gaps gaps]
          simp [finiteCount, firstFinite]
        rw [next] at apart
        exact absurd same apart
  · rintro ⟨before, first, second, after, parts, firstFinite, secondFinite, rfl⟩
    exact split.joined before first second after parts firstFinite secondFinite

/-- The lines are determined by their points and by which neighbours share a line. -/
theorem lines_unique (nonempty : ∀ line ∈ lines, line ≠ []) (nonempty' : ∀ line ∈ others, line ≠ [])
    (shown : lines.flatten = others.flatten)
    (together : ∀ place, Together lines place ↔ Together others place) : lines = others := by
  induction lines generalizing others with
  | nil =>
      cases others with
      | nil => rfl
      | cons other rest => simp [nonempty' other (by simp)] at shown
  | cons line rest ih =>
      obtain ⟨here, later⟩ := List.forall_mem_cons.mp nonempty
      cases others with
      | nil => simp [here] at shown
      | cons other rest' =>
          obtain ⟨here', later'⟩ := List.forall_mem_cons.mp nonempty'
          have positive := List.length_pos_iff.mpr here
          have positive' := List.length_pos_iff.mpr here'
          -- The last point of the shorter line would share a line with its neighbour in one list only.
          have long := together (line.length - 1)
          have short := together (other.length - 1)
          rw [together_cons_iff, together_cons_iff] at long short
          have sameLength : line.length = other.length := by omega
          rw [List.flatten_cons, List.flatten_cons] at shown
          obtain ⟨rfl, shownRest⟩ := List.append_inj shown sameLength
          rw [ih later later' shownRest fun place => ?_]
          have shifted := together (line.length + place)
          rw [together_cons_iff, together_cons_iff, Nat.add_sub_cancel_left] at shifted
          have beyond : ¬line.length + place + 1 < line.length := by omega
          simpa [beyond] using shifted

theorem CutAtGaps.unique (split : CutAtGaps points lines) (other : CutAtGaps points others) :
    lines = others :=
  lines_unique split.nonempty other.nonempty (split.shown.trans other.shown.symm) fun place =>
    (split.together_iff place).trans (other.together_iff place).symm

theorem MaximalRun.behind_gap (maximal : MaximalRun points front line back) (earlier : List Point)
    {gap : Point} (infinite : gap.isFinite = false) :
    MaximalRun (earlier ++ gap :: points) (earlier ++ gap :: front) line back where
  parts := by simp [maximal.parts]
  nonempty := maximal.nonempty
  finite := maximal.finite
  opened := by
    intro point found
    rw [List.getLast?_append_cons, List.getLast?_cons, Option.some.injEq] at found
    cases ending : front.getLast? with
    | none =>
        rw [ending] at found
        exact found ▸ infinite
    | some last =>
        rw [ending] at found
        exact found ▸ maximal.opened last ending
  closed := maximal.closed

/-- Each line is a maximal run, and it stands behind the lines of the points in front of it. -/
theorem exists_maximalRun_of_runs {run points : List Point} {before after : List (List Point)}
    (collected : ∀ point ∈ run, point.isFinite = true)
    (parts : runs run points = before ++ line :: after) :
    ∃ front back, MaximalRun (run.reverse ++ points) front line back ∧
      before.flatten = front.filter Point.isFinite := by
  induction points generalizing run before with
  | nil =>
      unfold runs at parts
      split at parts
      · simp at parts
      · rename_i nonempty
        cases before with
        | nil =>
            cases parts
            exact ⟨[], [], ⟨by simp, by simpa using nonempty, by simpa using collected, by simp,
              by simp⟩, rfl⟩
        | cons => simp at parts
  | cons point rest ih =>
      unfold runs at parts
      split at parts
      · rename_i finite
        have longer : ∀ held ∈ point :: run, held.isFinite = true :=
          List.forall_mem_cons.mpr ⟨finite, collected⟩
        simpa using ih longer parts
      · rename_i notFinite
        have infinite : point.isFinite = false := by simpa using notFinite
        split at parts
        · rename_i empty
          rw [List.isEmpty_iff.mp empty]
          obtain ⟨front, back, maximal, shown⟩ := ih (by simp) parts
          exact ⟨_, _, maximal.behind_gap [] infinite, by simpa [infinite] using shown⟩
        · rename_i nonempty
          have finite : ∀ held ∈ run.reverse, held.isFinite = true := by simpa using collected
          cases before with
          | nil =>
              cases parts
              exact ⟨[], point :: rest, ⟨by simp, by simpa using nonempty, finite, by simp,
                by simp [infinite]⟩, rfl⟩
          | cons first before =>
              obtain ⟨rfl, later⟩ := List.cons_eq_cons.mp parts
              obtain ⟨front, back, maximal, shown⟩ := ih (by simp) later
              refine ⟨_, _, maximal.behind_gap run.reverse infinite, ?_⟩
              rw [List.flatten_cons, shown, List.filter_append, List.filter_eq_self.mpr finite]
              simp [infinite]

def firstPairs (x y : List Binary64) : List Point :=
  (x.take (min x.length y.length)).zipWith Point.mk (y.take (min x.length y.length))

theorem segments_eq_runs (x y : List Binary64) : segments x y = runs [] (firstPairs x y) := by
  rw [segments, seriesPoints, List.zipWith_eq_zipWith_take_min]
  rfl

/-- The segments are the one list of lines that is cut exactly at the gaps of the common part of two
coordinate lists: the maximal runs of finite points, each behind the finite points before it. -/
theorem segments_are_maximal_runs (x y : List Binary64) :
    (∀ lines, lines = segments x y ↔ CutAtGaps (firstPairs x y) lines) ∧
    (∀ front line back, MaximalRun (firstPairs x y) front line back →
      ∃ before after, segments x y = before ++ line :: after ∧
        before.flatten = front.filter Point.isFinite) ∧
    ∀ before line after, segments x y = before ++ line :: after →
      ∃ front back, MaximalRun (firstPairs x y) front line back ∧
        before.flatten = front.filter Point.isFinite := by
  rw [segments_eq_runs]
  refine ⟨fun lines => ⟨?_, fun split => split.unique (runs_cutAtGaps _)⟩, ?_, ?_⟩
  · rintro rfl
    exact runs_cutAtGaps _
  · intro front line back maximal
    exact ⟨_, _, maximal.runs_eq, runs_flatten [] front⟩
  · intro before line after parts
    exact exists_maximalRun_of_runs (by simp) parts

end Throughput
