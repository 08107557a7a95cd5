import Throughput.Summary.Text
import Throughput.Text.ControlSequence

/-!
Taking control sequences out of a text, and what is left of text with styles: switching a style on
or off leaves no trace, and visible characters stay.
-/

namespace Throughput

namespace ControlSequence

def isParameter (value : Char) : Bool := within value.toNat 0x30 0x3F

def isIntermediate (value : Char) : Bool := within value.toNat 0x20 0x2F

def isFinal (value : Char) : Bool := within value.toNat 0x40 0x7E

def afterSequence? : List Char → Option (List Char)
  | '\x1b' :: '[' :: rest =>
    match (rest.dropWhile isParameter).dropWhile isIntermediate with
    | final :: later => if isFinal final then some later else none
    | [] => none
  | _ => none

theorem length_of_afterSequence? {text later : List Char}
    (follows : afterSequence? text = some later) : later.length < text.length := by
  unfold afterSequence? at follows
  split at follows
  next rest =>
      split at follows
      next final behind parts =>
          split at follows
          next =>
              cases follows
              have fewer := Nat.le_trans (List.dropWhile_suffix isIntermediate).length_le
                (List.dropWhile_suffix (l := rest) isParameter).length_le
              rw [parts] at fewer
              simp only [List.length_cons] at fewer ⊢
              omega
          next => cases follows
      next => cases follows
  next => cases follows

def erasedFrom : List Char → List Char
  | [] => []
  | value :: rest =>
    match _ : afterSequence? (value :: rest) with
    | some later => erasedFrom later
    | none => value :: erasedFrom rest
termination_by text => text.length
decreasing_by
  · exact length_of_afterSequence? ‹_›
  · exact Nat.lt_succ_self _

def erased (text : String) : String := String.ofList (erasedFrom text.toList)

def Visible (text : String) : Prop := ∀ value ∈ text.toList, isVisible value = true

instance (text : String) : Decidable (Visible text) :=
  decidable_of_iff (text.toList.all isVisible = true) List.all_eq_true

theorem Visible.append {first rest : String} (visible : Visible first) (more : Visible rest) :
    Visible (first ++ rest) := by
  intro value member
  rw [String.toList_append, List.mem_append] at member
  rcases member with inFirst | inRest
  · exact visible value inFirst
  · exact more value inRest

theorem visible_of_isDigit {value : Char} (digit : value.isDigit = true) :
    isVisible value = true := by
  have bounds := Char.isDigit_iff_toNat.mp digit
  have low : ' ' ≤ value := by
    rw [Char.le_def, UInt32.le_iff_toNat_le]
    exact Nat.le_trans (by decide) bounds.1
  have other : value ≠ '\x7f' := by
    rintro rfl
    cases digit
  simp [isVisible, low, other]

theorem ne_escape_of_isVisible {value : Char} (visible : isVisible value = true) :
    value ≠ '\x1b' := by
  rintro rfl
  cases visible

structure Clears (clear : List Char → List Char) : Prop where
  nothing : clear [] = []
  switchedOn : ∀ (style : TextStyle) rest,
    clear ((TextStyle.escape style.code).toList ++ rest) = clear rest
  switchedOff : ∀ rest, clear ((TextStyle.escape "0").toList ++ rest) = clear rest
  visible : ∀ value rest, isVisible value = true → clear (value :: rest) = value :: clear rest

theorem erasedFrom_of_afterSequence? {text later : List Char}
    (follows : afterSequence? text = some later) : erasedFrom text = erasedFrom later := by
  cases text with
  | nil => cases follows
  | cons value rest =>
      rw [erasedFrom]
      split
      next other found =>
          rw [Option.some.inj (follows.symm.trans found)]
      next missing => cases follows.symm.trans missing

theorem afterSequence?_eq_none {value : Char} (plain : value ≠ '\x1b') (rest : List Char) :
    afterSequence? (value :: rest) = none := by
  unfold afterSequence?
  split
  next starts =>
      cases starts
      exact absurd rfl plain
  next => rfl

theorem clears_erasedFrom : Clears erasedFrom where
  nothing := by rw [erasedFrom]
  switchedOn := by
    intro style rest
    cases style
    all_goals exact erasedFrom_of_afterSequence? rfl
  switchedOff := fun rest => erasedFrom_of_afterSequence? rfl
  visible := by
    intro value rest visible
    have none := afterSequence?_eq_none (ne_escape_of_isVisible visible) rest
    rw [erasedFrom]
    split
    next found => cases none.symm.trans found
    next => rfl

/-- Outside of all sequences it makes no difference whether the last character was kept. -/
theorem keptFrom_outside (keeping : Bool) (text : List Char) :
    keptFrom .outside keeping text = keptFrom .outside false text := by
  cases text with
  | nil => rfl
  | cons value rest =>
      unfold keptFrom
      cases visible : isVisible value <;> simp [State.shows, visible]

theorem clears_keptFrom : Clears (keptFrom .outside false) where
  nothing := rfl
  switchedOn := by
    intro style rest
    cases style
    all_goals rfl
  switchedOff := fun rest => rfl
  visible := by
    intro value rest visible
    rw [keptFrom, if_pos (by simp [State.shows, visible])]
    simp only [ite_self, keptFrom_outside true]

namespace Clears

variable {clear : List Char → List Char}

theorem append (clears : Clears clear) {text : String} (visible : Visible text)
    (rest : List Char) : clear (text.toList ++ rest) = text.toList ++ clear rest := by
  unfold Visible at visible
  generalize text.toList = characters at visible ⊢
  induction characters with
  | nil => rfl
  | cons value later ih =>
      rw [List.cons_append, clears.visible _ _ (visible value List.mem_cons_self),
        ih fun other member => visible other (List.mem_cons_of_mem _ member), List.cons_append]

end Clears

end ControlSequence

end Throughput
