import Mathlib.Logic.Basic
import Throughput.Proofs.Binary64.Text

/-!
The printed forms of a summary. The form for a terminal is the plain text without colours, and with
colours it is the plain text but for the control sequences in it.
-/

namespace Throughput

open ControlSequence

namespace Styled

def linesText (lines : List (List Styled)) : String :=
  String.join (lines.map fun pieces => String.join (pieces.map (·.text)) ++ "\n")

theorem linesText_append (first rest : List (List Styled)) :
    linesText (first ++ rest) = linesText first ++ linesText rest := by
  simp [linesText]

variable {clear : List Char → List Char}

theorem clear_switches (clears : Clears clear) (styles : List TextStyle) (rest : List Char) :
    clear ((String.join (styles.map fun style => TextStyle.escape style.code)).toList ++ rest) =
      clear rest := by
  induction styles with
  | nil => simp
  | cons style styles ih =>
      rw [List.map_cons, String.join_cons, String.toList_append, List.append_assoc,
        clears.switchedOn, ih]

theorem clear_render (clears : Clears clear) {piece : Styled} (visible : Visible piece.text)
    (rest : List Char) :
    clear ((piece.render true).toList ++ rest) = piece.text.toList ++ clear rest := by
  unfold render
  split
  · rw [String.toList_append, String.toList_append, List.append_assoc, List.append_assoc,
      clear_switches clears, clears.append visible, clears.switchedOff]
  · exact clears.append visible rest

theorem clear_line (clears : Clears clear) {pieces : List Styled}
    (visible : ∀ piece ∈ pieces, Visible piece.text) (rest : List Char) :
    clear ((String.join (pieces.map (render true))).toList ++ rest) =
      (String.join (pieces.map (·.text))).toList ++ clear rest := by
  induction pieces with
  | nil => simp
  | cons piece pieces ih =>
      obtain ⟨first, later⟩ := List.forall_mem_cons.mp visible
      rw [List.map_cons, List.map_cons, String.join_cons, String.join_cons, String.toList_append,
        String.toList_append, List.append_assoc, List.append_assoc, clear_render clears first,
        ih later]

theorem clear_lines (clears : Clears clear) {lines : List (List Styled)}
    (visible : ∀ pieces ∈ lines, ∀ piece ∈ pieces, Visible piece.text) :
    clear (String.join (lines.map fun pieces =>
      String.join (pieces.map (render true)) ++ "\n")).toList = (linesText lines).toList := by
  unfold linesText
  induction lines with
  | nil => exact clears.nothing
  | cons pieces lines ih =>
      obtain ⟨first, later⟩ := List.forall_mem_cons.mp visible
      have ended : Visible "\n" := by decide
      simp only [List.map_cons, String.join_cons, String.toList_append, List.append_assoc]
      rw [clear_line clears first, clears.append ended, ih later]

end Styled

namespace RateSummary

variable (summary : RateSummary)

theorem linesText_styledLines : Styled.linesText summary.styledLines = summary.text := by
  have shown (text : String) : toString text = text := rfl
  unfold styledLines text
  rw [Styled.linesText_append, Styled.linesText_append, Styled.linesText_append]
  refine congrArg₂ _ (congrArg₂ _ (congrArg₂ _ ?_ ?_) ?_) ?_
  · rw [← String.toList_inj]
    simp [Styled.linesText, bold, plain, shown]
  · cases summary.secondRange with
    | none => rfl
    | some range =>
        rw [← String.toList_inj]
        simp [Styled.linesText, bold, plain]
  · cases summary.mean with
    | none => rfl
    | some mean =>
        rw [← String.toList_inj]
        simp [Styled.linesText, bold, plain]
  · cases summary.peak with
    | none => rfl
    | some peak =>
        rw [← String.toList_inj]
        simp [Styled.linesText, bold, plain]

theorem visible_rateText (rate : Binary64) : Visible (rateText rate) :=
  rate.visible_twoPlaces.append (by decide)

theorem visible_secondText (second : Binary64) : Visible (secondText second) :=
  second.visible_text

theorem visible_styledLines :
    ∀ pieces ∈ summary.styledLines, ∀ piece ∈ pieces, Visible piece.text := by
  have counts : Visible s!": {summary.samples} ({summary.validSamples} valid)" :=
    ((((by decide : Visible ": ").append (visible_toString _)).append (by decide)).append
      (visible_toString _)).append (by decide)
  unfold styledLines
  simp only [List.forall_mem_append]
  refine ⟨⟨⟨?_, ?_⟩, ?_⟩, ?_⟩
  · simp only [List.forall_mem_cons, bold, plain]
    exact ⟨⟨by decide, nofun⟩, ⟨by decide, nofun⟩, ⟨by decide, counts, nofun⟩, nofun⟩
  · cases summary.secondRange with
    | none => exact nofun
    | some range =>
        have spanned : Visible (": " ++ secondText range.1 ++ " - " ++ secondText range.2 ++ " s") :=
          ((((by decide : Visible ": ").append (visible_secondText _)).append (by decide)).append
            (visible_secondText _)).append (by decide)
        simp only [List.forall_mem_cons, bold, plain]
        exact ⟨⟨by decide, spanned, nofun⟩, nofun⟩
  · cases summary.mean with
    | none => exact nofun
    | some mean =>
        simp only [List.forall_mem_cons, bold, plain]
        exact ⟨⟨by decide, by decide, visible_rateText mean, nofun⟩, nofun⟩
  · cases summary.peak with
    | none => exact nofun
    | some peak =>
        have placed : Visible (" at " ++ secondText peak.second ++ " s") :=
          ((by decide : Visible " at ").append (visible_secondText _)).append (by decide)
        simp only [List.forall_mem_cons, bold, plain]
        exact ⟨⟨by decide, by decide, visible_rateText peak.rate, placed, nofun⟩, nofun⟩

theorem styledText_false : summary.styledText false = summary.text :=
  summary.linesText_styledLines

theorem clear_styledText {clear : List Char → List Char} (clears : Clears clear) :
    String.ofList (clear (summary.styledText true).toList) = summary.text := by
  unfold styledText
  rw [Styled.clear_lines clears summary.visible_styledLines, linesText_styledLines]
  exact String.ofList_toList

/-- The form for a terminal is the plain text when colours are off, and when they are on it is the
plain text once the control sequences have been taken out, whichever way this is done. -/
theorem styledText_agrees_with_text : summary.styledText false = summary.text ∧
    erased (summary.styledText true) = summary.text ∧
    removed (summary.styledText true) = summary.text :=
  ⟨summary.styledText_false, summary.clear_styledText clears_erasedFrom,
    summary.clear_styledText clears_keptFrom⟩

end RateSummary

end Throughput
