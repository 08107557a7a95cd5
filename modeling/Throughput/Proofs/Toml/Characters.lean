import Mathlib.Data.Bool.AllAny
import Mathlib.Data.List.TakeWhile
import Throughput.Proofs.Toml.Written

/-! What stands between tokens is skipped. -/

namespace Throughput.Toml

theorem isSpace_iff {character : Char} : isSpace character = true ↔ character ∈ [' ', '\t'] := by
  simp [isSpace]

theorem isVisible_iff {character : Char} : isVisible character = true ↔ Printed character := by
  have space : ' ' ≤ character ↔ 0x20 ≤ character.toNat := Iff.rfl
  have delete : character ≠ '\x7f' ↔ character.toNat ≠ 0x7F := not_congr Char.toNat_inj.symm
  simp [isVisible, Printed, space, delete]

/-- What is one of a few characters has what each of them is checked to have. -/
theorem of_listed {listed : List Char} {P Q : Char → Prop} [DecidablePred Q]
    (few : ∀ character, P character → character ∈ listed)
    (each : (listed.all fun character => Q character) = true) :
    ∀ character, P character → Q character :=
  fun character holds => List.all_iff_forall_prop.mp each character (few character holds)

variable {blanks comment lineBreak rest : List Char}

theorem skipSpaces_append (spaced : Spaces blanks) (rest : List Char) :
    skipSpaces (blanks ++ rest) = skipSpaces rest :=
  List.dropWhile_append_of_pos fun character member => isSpace_iff.mpr (spaced character member)

theorem skipSpaces_eq_self (further : ∀ next ∈ rest.head?, next ∉ [' ', '\t']) :
    skipSpaces rest = rest := by
  cases rest with
  | nil => rfl
  | cons next rest => exact List.dropWhile_cons_of_neg (mt isSpace_iff.mp (further next rfl))

theorem skipSpaces_to (spaced : Spaces blanks) (further : ∀ next ∈ rest.head?, next ∉ [' ', '\t']) :
    skipSpaces (blanks ++ rest) = rest := by
  rw [skipSpaces_append spaced, skipSpaces_eq_self further]

def Ends (rest : List Char) : Prop :=
  ∀ next ∈ (skipSpaces rest).head?, next ∈ ['#', '\n', '\r', ',', ']']

theorem Ends.head (ends : Ends rest) :
    ∀ next ∈ rest.head?, next ∈ [' ', '\t', '#', '\n', '\r', ',', ']'] := by
  intro next first
  by_cases spaced : next ∈ [' ', '\t']
  · exact List.mem_append_left ['#', '\n', '\r', ',', ']'] spaced
  · refine List.mem_append_right [' ', '\t'] (ends next ?_)
    rwa [skipSpaces_eq_self fun other same => ?_]
    obtain rfl := Option.mem_unique first same
    exact spaced

theorem ends_append (spaced : Spaces blanks) (ends : Ends rest) : Ends (blanks ++ rest) := by
  rwa [Ends, skipSpaces_append spaced]

theorem ends_of_head (further : ∀ next ∈ rest.head?, next ∈ ['#', '\n', '\r', ',', ']']) :
    Ends rest := by
  intro next first
  rw [skipSpaces_eq_self] at first
  · exact further next first
  · exact of_listed further (by decide)

/-! The ends of lines. -/

theorem afterLineBreak?_append (ends : LineBreak lineBreak) (rest : List Char) :
    afterLineBreak? (lineBreak ++ rest) = some rest := by
  rcases ends with rfl | rfl <;> rfl

theorem afterLineBreak?_cons {first : Char} (noFeed : first ≠ '\n') (noReturn : first ≠ '\r') :
    afterLineBreak? (first :: rest) = none := by
  rw [afterLineBreak?]
  · exact fun _ same => noFeed (List.head_eq_of_cons_eq same)
  · exact fun _ same => noReturn (List.head_eq_of_cons_eq same)

theorem LineBreak.head (ends : LineBreak lineBreak) (rest : List Char) :
    ∀ next ∈ (lineBreak ++ rest).head?, next ∈ ['\n', '\r'] := by
  rcases ends with rfl | rfl <;> simp

def LineEnd (lineBreak rest : List Char) : Prop :=
  LineBreak lineBreak ∨ lineBreak = [] ∧ rest = []

theorem LineEnd.head (ends : LineEnd lineBreak rest) :
    ∀ next ∈ (lineBreak ++ rest).head?, next ∈ ['\n', '\r'] := by
  rcases ends with ends | ⟨rfl, rfl⟩
  · exact ends.head rest
  · simp

theorem head_comment (commented : Comment comment) (ends : LineEnd lineBreak rest) :
    ∀ next ∈ (comment ++ (lineBreak ++ rest)).head?, next ∈ ['#', '\n', '\r'] := by
  intro next first
  cases commented with
  | none => exact List.mem_cons_of_mem _ (ends.head next first)
  | some printed =>
      obtain rfl : '#' = next := Option.some.inj first
      exact List.mem_cons_self

theorem ends_comment (commented : Comment comment) (ends : LineEnd lineBreak rest) :
    Ends (comment ++ (lineBreak ++ rest)) :=
  ends_of_head fun next first =>
    List.mem_append_left [',', ']'] (head_comment commented ends next first)

theorem skipComment_append (commented : Comment comment) (ends : LineEnd lineBreak rest) :
    skipComment (comment ++ (lineBreak ++ rest)) = lineBreak ++ rest := by
  cases commented with
  | none =>
      rcases ends with (rfl | rfl) | ⟨rfl, rfl⟩ <;> rfl
  | @some content printed =>
      change (content ++ (lineBreak ++ rest)).dropWhile isVisible = _
      rw [List.dropWhile_append_of_pos fun character member =>
        isVisible_iff.mpr (printed character member)]
      rcases ends with (rfl | rfl) | ⟨rfl, rfl⟩ <;> rfl

theorem afterLine?_append (spaced : Spaces blanks) (commented : Comment comment)
    (ends : LineEnd lineBreak rest) :
    afterLine? (blanks ++ (comment ++ (lineBreak ++ rest))) = some rest := by
  have further : ∀ next ∈ (comment ++ (lineBreak ++ rest)).head?, next ∉ [' ', '\t'] :=
    of_listed (head_comment commented ends) (by decide)
  rw [afterLine?, skipSpaces_to spaced further, skipComment_append commented ends]
  rcases ends with (rfl | rfl) | ⟨rfl, rfl⟩ <;> rfl

/-! Filler. -/

theorem skipFiller_comment {content : List Char}
    (printed : ∀ character ∈ content, Printed character) (ends : LineBreak lineBreak)
    (rest : List Char) :
    skipFiller true (content ++ (lineBreak ++ rest)) = skipFiller false rest := by
  induction content with
  | nil => rcases ends with rfl | rfl <;> rfl
  | cons character content ih =>
      obtain ⟨first, others⟩ := List.forall_mem_cons.mp printed
      have visible := isVisible_iff.mpr first
      have noBreak : character ≠ '\n' ∧ character ≠ '\r' := by
        constructor <;> rintro rfl <;> revert visible <;> decide
      rw [List.cons_append, skipFiller]
      · simp [visible, ih others]
      · exact fun same => noBreak.1 same
      · exact fun _ same => absurd same noBreak.2

theorem skipFiller_append {filler : List Char} (filled : Filler filler) (rest : List Char) :
    skipFiller false (filler ++ rest) = skipFiller false rest := by
  induction filled with
  | none => rfl
  | space spaced later ih =>
      simp only [List.mem_cons, List.not_mem_nil, or_false] at spaced
      rcases spaced with rfl | rfl <;> exact ih
  | line written ends later ih =>
      rw [List.append_assoc, List.append_assoc]
      cases written with
      | none => rcases ends with rfl | rfl <;> exact ih
      | some printed => exact (skipFiller_comment printed ends _).trans ih

theorem skipFiller_to {filler : List Char} (filled : Filler filler)
    (further : ∀ next ∈ rest.head?, next ∉ [' ', '\t', '\n', '\r', '#']) :
    skipFiller false (filler ++ rest) = rest := by
  rw [skipFiller_append filled]
  cases rest with
  | nil => rfl
  | cons next rest =>
      have other := further next rfl
      simp only [List.mem_cons, List.not_mem_nil, or_false, not_or] at other
      obtain ⟨noSpace, noTab, noFeed, noReturn, noComment⟩ := other
      rw [skipFiller]
      · simp [isSpace, noSpace, noTab, noComment]
      · exact noFeed
      · exact fun _ same => absurd same noReturn

end Throughput.Toml
