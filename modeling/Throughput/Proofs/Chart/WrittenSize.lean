import Mathlib.Data.List.DropRight
import Throughput.Proofs.Chart.Size

/-!
The texts that are read as sizes, and no others. The first separator divides the text, so a second
one lies in the height, where it is no digit. The value of the digits counts and not their number:
zeros in front are of no account, and a side fails only when it does not fit.
-/

namespace Throughput

def whiteSpace : List Char :=
  ['\t', '\n', '\u000b', '\u000c', '\r', ' ', '\u0085', '\u00a0', '\u1680', '\u2000', '\u2001',
    '\u2002', '\u2003', '\u2004', '\u2005', '\u2006', '\u2007', '\u2008', '\u2009', '\u200a',
    '\u2028', '\u2029', '\u202f', '\u205f', '\u3000']

theorem mem_whiteSpace_iff {character : Char} :
    character ∈ whiteSpace ↔ isBlank character = true := by
  simp only [whiteSpace, List.mem_cons, List.not_mem_nil, or_false, ← Char.toNat_inj,
    Char.reduceToNat, isBlank, Bool.or_eq_true, Bool.and_eq_true, decide_eq_true_eq, beq_iff_eq]
  omega

/-! Blanks around a text that begins and ends with something else. -/

theorem dropWhile_isBlank_append {core : List Char} (nonempty : core ≠ [])
    (solid : ∀ character ∈ core, isBlank character = false) (after : List Char) :
    (core ++ after).dropWhile isBlank = core ++ after := by
  obtain ⟨first, rest, rfl⟩ := List.exists_cons_of_ne_nil nonempty
  exact List.dropWhile_cons_of_neg (by simp [solid first])

theorem trimBlanks_surrounded {before core after : List Char} (nonempty : core ≠ [])
    (solid : ∀ character ∈ core, isBlank character = false)
    (blankBefore : before ⊆ whiteSpace) (blankAfter : after ⊆ whiteSpace) :
    trimBlanks (before ++ core ++ after) = core := by
  have left : (before ++ core ++ after).dropWhile isBlank = core ++ after := by
    have blank : ∀ character ∈ before, isBlank character = true :=
      fun character member => mem_whiteSpace_iff.mp (blankBefore member)
    rw [List.append_assoc, List.dropWhile_append_of_pos blank,
      dropWhile_isBlank_append nonempty solid]
  have core_solid : core.reverse.dropWhile isBlank = core.reverse := by
    have mirrored : ∀ character ∈ core.reverse, isBlank character = false := by simpa using solid
    have end_solid := dropWhile_isBlank_append (List.reverse_ne_nil_iff.mpr nonempty) mirrored []
    rwa [List.append_nil] at end_solid
  have right : (after.reverse ++ core.reverse).dropWhile isBlank = core.reverse := by
    have blank : ∀ character ∈ after.reverse, isBlank character = true :=
      fun character member => mem_whiteSpace_iff.mp (blankAfter (List.mem_reverse.mp member))
    rw [List.dropWhile_append_of_pos blank, core_solid]
  rw [trimBlanks, left, List.reverse_append, right, List.reverse_reverse]

theorem exists_blanks_around (text : List Char) :
    ∃ before after, text = before ++ trimBlanks text ++ after ∧ before ⊆ whiteSpace ∧
      after ⊆ whiteSpace := by
  refine ⟨text.takeWhile isBlank, (text.dropWhile isBlank).rtakeWhile isBlank, ?_,
    fun _ member => mem_whiteSpace_iff.mpr (List.mem_takeWhile_imp member),
    fun _ member => mem_whiteSpace_iff.mpr (List.mem_rtakeWhile_imp member)⟩
  have whole : trimBlanks text ++ (text.dropWhile isBlank).rtakeWhile isBlank =
      text.dropWhile isBlank := List.rdropWhile_append_rtakeWhile
  rw [List.append_assoc, whole, List.takeWhile_append_dropWhile]

namespace ImageSize

structure IsDecimal (value : Nat) (digits : List Char) : Prop where
  nonempty : digits ≠ []
  isDigit : ∀ digit ∈ digits, digit.isDigit = true
  value_eq : Nat.ofDigitChars 10 digits 0 = value

inductive IsNumber (value : Nat) : List Char → Prop
  | unsigned {digits : List Char} (decimal : IsDecimal value digits) : IsNumber value digits
  | signed {digits : List Char} (decimal : IsDecimal value digits) : IsNumber value ('+' :: digits)

inductive WrittenSide (side : UInt32) : List Char → Prop
  | spaced {before core after : List Char} (number : IsNumber side.toNat core)
      (blankBefore : before ⊆ whiteSpace) (blankAfter : after ⊆ whiteSpace) :
      WrittenSide side (before ++ core ++ after)

inductive WrittenSize (size : ImageSize) : List Char → Prop
  | sides {width height : List Char} {separator : Char}
      (first : ∀ character ∈ width, character ≠ 'x' ∧ character ≠ 'X')
      (separates : separator = 'x' ∨ separator = 'X') (visible : size.Visible)
      (writesWidth : WrittenSide size.width width) (writesHeight : WrittenSide size.height height) :
      WrittenSize size (width ++ separator :: height)

/-! Digits. -/

theorem le_ofDigitChars (digits : List Char) (value : Nat) :
    value ≤ Nat.ofDigitChars 10 digits value := by
  induction digits generalizing value with
  | nil => exact Nat.le_refl value
  | cons digit rest ih =>
      rw [Nat.ofDigitChars_cons]
      have := ih (10 * value + (digit.toNat - '0'.toNat))
      omega

theorem sideStep_eq_ok_iff {value next : Nat} {digit : Char} :
    sideStep value digit = .ok next ↔ digit.isDigit = true ∧
      10 * value + (digit.toNat - '0'.toNat) = next ∧ next < UInt32.size := by
  rw [sideStep, Nat.mul_comm value]
  by_cases isDigit : digit.isDigit = true
  · rw [if_neg (not_not.mpr isDigit)]
    by_cases fits : 10 * value + (digit.toNat - '0'.toNat) < UInt32.size
    · simp only [fits, if_true, Except.ok.injEq, isDigit, true_and]
      constructor
      · rintro rfl
        exact ⟨rfl, fits⟩
      · exact And.left
    · simp only [fits, if_false, reduceCtorEq, false_iff]
      rintro ⟨-, rfl, small⟩
      exact fits small
  · rw [if_pos isDigit]
    simp [isDigit]

/-- The number only grows while its digits are read, so one that fits in the end has fitted all
along. -/
theorem foldlM_sideStep_eq_ok_iff {digits : List Char} {value total : Nat}
    (fits : value < UInt32.size) : digits.foldlM sideStep value = .ok total ↔
      (∀ digit ∈ digits, digit.isDigit = true) ∧
        Nat.ofDigitChars 10 digits value = total ∧ total < UInt32.size := by
  induction digits generalizing value with
  | nil =>
      constructor
      · rintro ⟨⟩
        exact ⟨nofun, rfl, fits⟩
      · rintro ⟨-, rfl, -⟩
        rfl
  | cons digit rest ih =>
      rw [List.foldlM_cons, bind_eq_ok_iff, List.forall_mem_cons, Nat.ofDigitChars_cons]
      constructor
      · rintro ⟨next, step, others⟩
        obtain ⟨isDigit, rfl, small⟩ := sideStep_eq_ok_iff.mp step
        obtain ⟨later, value_eq, end_fits⟩ := (ih small).mp others
        exact ⟨⟨isDigit, later⟩, value_eq, end_fits⟩
      · rintro ⟨⟨isDigit, later⟩, rfl, end_fits⟩
        have small := Nat.lt_of_le_of_lt (le_ofDigitChars rest _) end_fits
        refine ⟨_, sideStep_eq_ok_iff.mpr ⟨isDigit, rfl, small⟩, ?_⟩
        exact (ih small).mpr ⟨later, rfl, end_fits⟩

theorem ofNat_foldlM_eq_ok_iff {digits : List Char} {side : UInt32} (nonempty : digits ≠ []) :
    UInt32.ofNat <$> digits.foldlM sideStep 0 = .ok side ↔ IsDecimal side.toNat digits := by
  constructor
  · intro read
    cases folded : digits.foldlM sideStep 0 with
    | error cause =>
        rw [folded] at read
        cases read
    | ok total =>
        rw [folded] at read
        cases read
        obtain ⟨isDigit, value_eq, fits⟩ := (foldlM_sideStep_eq_ok_iff (by decide)).mp folded
        exact ⟨nonempty, isDigit, by rw [value_eq, UInt32.toNat_ofNat_of_lt' fits]⟩
  · rintro ⟨-, isDigit, value_eq⟩
    have folded := (foldlM_sideStep_eq_ok_iff (by decide)).mpr ⟨isDigit, value_eq, side.toNat_lt⟩
    rw [folded, Except.map_ok, UInt32.ofNat_toNat]

/-! Signs. A plus sign is no digit, so it stands in front of the digits or nowhere. -/

theorem isNumber_plus_iff {value : Nat} {digits : List Char} :
    IsNumber value ('+' :: digits) ↔ IsDecimal value digits := by
  constructor
  · intro number
    cases number with
    | unsigned decimal => exact absurd (decimal.isDigit '+' List.mem_cons_self) (by decide)
    | signed decimal => exact decimal
  · exact .signed

theorem isNumber_iff {value : Nat} {text : List Char} (unsigned : ∀ digits, text ≠ '+' :: digits) :
    IsNumber value text ↔ IsDecimal value text := by
  constructor
  · intro number
    cases number with
    | unsigned decimal => exact decimal
    | signed => exact absurd rfl (unsigned _)
  · exact .unsigned

theorem sideOf_eq_ok_iff {text : List Char} {side : UInt32} :
    sideOf text = .ok side ↔ IsNumber side.toNat text := by
  unfold sideOf
  split
  next =>
      rw [isNumber_iff (fun digits => (List.cons_ne_nil '+' digits).symm)]
      exact ⟨nofun, fun decimal => absurd rfl decimal.nonempty⟩
  next =>
      rw [isNumber_plus_iff]
      exact ⟨nofun, fun decimal => absurd rfl decimal.nonempty⟩
  next digits alone =>
      have nonempty : digits ≠ [] := by
        rintro rfl
        exact alone rfl
      rw [isNumber_plus_iff, ofNat_foldlM_eq_ok_iff nonempty]
  next nonempty _ unsigned =>
      rw [isNumber_iff unsigned, ofNat_foldlM_eq_ok_iff nonempty]

/-! Sides with blanks around them. -/

theorem isBlank_of_isDigit {character : Char} (digit : character.isDigit = true) :
    isBlank character = false := by
  have bounds : 48 ≤ character.toNat ∧ character.toNat ≤ 57 := Char.isDigit_iff_toNat.mp digit
  rw [← Bool.not_eq_true]
  simp only [isBlank, Bool.or_eq_true, Bool.and_eq_true, decide_eq_true_eq, beq_iff_eq]
  omega

theorem IsNumber.ne_nil {value : Nat} {text : List Char} (number : IsNumber value text) :
    text ≠ [] := by
  cases number with
  | unsigned decimal => exact decimal.nonempty
  | signed => exact List.cons_ne_nil _ _

theorem IsNumber.solid {value : Nat} {text : List Char} (number : IsNumber value text) :
    ∀ character ∈ text, isBlank character = false := by
  cases number with
  | unsigned decimal => exact fun digit member => isBlank_of_isDigit (decimal.isDigit digit member)
  | signed decimal =>
      rw [List.forall_mem_cons]
      exact ⟨by decide, fun digit member => isBlank_of_isDigit (decimal.isDigit digit member)⟩

theorem sideOf_trimBlanks_eq_ok_iff {text : List Char} {side : UInt32} :
    sideOf (trimBlanks text) = .ok side ↔ WrittenSide side text := by
  rw [sideOf_eq_ok_iff]
  constructor
  · intro number
    obtain ⟨before, after, surrounded, blankBefore, blankAfter⟩ := exists_blanks_around text
    rw [surrounded]
    exact .spaced number blankBefore blankAfter
  · rintro ⟨number, blankBefore, blankAfter⟩
    rwa [trimBlanks_surrounded number.ne_nil number.solid blankBefore blankAfter]

/-! The separator. -/

theorem isSeparator_iff {character : Char} :
    isSeparator character = true ↔ character = 'x' ∨ character = 'X' := by
  simp [isSeparator]

theorem isSeparator_eq_false_iff {character : Char} :
    isSeparator character = false ↔ character ≠ 'x' ∧ character ≠ 'X' := by
  simp [isSeparator]

theorem ofText_eq_ok_iff_sides {text : String} {width height : List Char} {separator : Char}
    {size : ImageSize} (written : text.toList = width ++ separator :: height)
    (first : ∀ character ∈ width, isSeparator character = false)
    (separates : isSeparator separator = true) :
    ofText text = .ok size ↔ size.Visible ∧ sideOf (trimBlanks width) = .ok size.width ∧
      sideOf (trimBlanks height) = .ok size.height := by
  have plain : ∀ character ∈ width, (!isSeparator character) = true := by simpa using first
  have before : text.toList.takeWhile (!isSeparator ·) = width := by
    rw [written, List.takeWhile_append_of_pos plain]
    simp [separates]
  have after : text.toList.dropWhile (!isSeparator ·) = separator :: height := by
    rw [written, List.dropWhile_append_of_pos plain]
    simp [separates]
  unfold ofText
  rw [after]
  simp only [before, bind_eq_ok_iff, mapError_eq_ok_iff]
  constructor
  · rintro ⟨_, readWidth, _, readHeight, read⟩
    split at read
    next => cases read
    next nonzero =>
        cases read
        exact ⟨visible_iff.mpr nonzero, readWidth, readHeight⟩
  · rintro ⟨visible, readWidth, readHeight⟩
    exact ⟨_, readWidth, _, readHeight, if_neg (visible_iff.mp visible)⟩

theorem exists_separator {text : String} {size : ImageSize} (read : ofText text = .ok size) :
    ∃ width separator height, text.toList = width ++ separator :: height ∧
      (∀ character ∈ width, isSeparator character = false) ∧ isSeparator separator = true := by
  cases rest : text.toList.dropWhile (!isSeparator ·) with
  | nil =>
      unfold ofText at read
      rw [rest] at read
      cases read
  | cons separator height =>
      refine ⟨text.toList.takeWhile (!isSeparator ·), separator, height, ?_, ?_, ?_⟩
      · rw [← rest, List.takeWhile_append_dropWhile]
      · intro character member
        simpa using List.mem_takeWhile_imp member
      · have head := List.head?_dropWhile_not (!isSeparator ·) text.toList
        simpa [rest] using head

theorem ofText_eq_ok_iff {text : String} {size : ImageSize} :
    ofText text = .ok size ↔ WrittenSize size text.toList := by
  constructor
  · intro read
    obtain ⟨width, separator, height, written, first, separates⟩ := exists_separator read
    obtain ⟨visible, readWidth, readHeight⟩ :=
      (ofText_eq_ok_iff_sides written first separates).mp read
    rw [written]
    exact .sides (fun character member => isSeparator_eq_false_iff.mp (first character member))
      (isSeparator_iff.mp separates) visible (sideOf_trimBlanks_eq_ok_iff.mp readWidth)
      (sideOf_trimBlanks_eq_ok_iff.mp readHeight)
  · intro grammar
    generalize written : text.toList = characters at grammar
    cases grammar with
    | sides first separates visible writesWidth writesHeight =>
        rw [ofText_eq_ok_iff_sides written
          (fun character member => isSeparator_eq_false_iff.mpr (first character member))
          (isSeparator_iff.mpr separates)]
        exact ⟨visible, sideOf_trimBlanks_eq_ok_iff.mpr writesWidth,
          sideOf_trimBlanks_eq_ok_iff.mpr writesHeight⟩

/-! The text of a size. -/

def text (size : ImageSize) : String :=
  toString size.width.toNat ++ "x" ++ toString size.height.toNat

theorem toList_text (size : ImageSize) : size.text.toList =
    Nat.toDigits 10 size.width.toNat ++ 'x' :: Nat.toDigits 10 size.height.toNat := by
  simp [text, Nat.toList_repr]

theorem isDecimal_toDigits (value : Nat) : IsDecimal value (Nat.toDigits 10 value) where
  nonempty := Nat.toDigits_ne_nil
  isDigit := fun _ => Nat.isDigit_of_mem_toDigits (by decide) (by decide)
  value_eq := Nat.ofDigitChars_ten_toDigits

theorem writtenSide_toDigits (side : UInt32) : WrittenSide side (Nat.toDigits 10 side.toNat) := by
  have spaced : WrittenSide side ([] ++ Nat.toDigits 10 side.toNat ++ []) :=
    .spaced (.unsigned (isDecimal_toDigits side.toNat)) (List.nil_subset _) (List.nil_subset _)
  simpa using spaced

theorem ofText_text {size : ImageSize} (visible : size.Visible) : ofText size.text = .ok size := by
  rw [ofText_eq_ok_iff, toList_text]
  refine .sides ?_ (.inl rfl) visible (writtenSide_toDigits _) (writtenSide_toDigits _)
  intro digit member
  have isDigit := (isDecimal_toDigits _).isDigit digit member
  constructor
  · rintro rfl
    exact absurd isDigit (by decide)
  · rintro rfl
    exact absurd isDigit (by decide)

/-- The texts of a size are read as this size, and every other text is refused. The plain text of a
size is one of its texts. -/
theorem ofText_accepts_written_sizes :
    (∀ (text : String) (size : ImageSize),
      ofText text = .ok size ↔ WrittenSize size text.toList) ∧
    (∀ text : String, (∃ cause, ofText text = .error cause) ↔
      ¬∃ size, WrittenSize size text.toList) ∧
    ∀ size : ImageSize, size.Visible → ofText size.text = .ok size := by
  refine ⟨fun text size => ofText_eq_ok_iff, ?_, fun size => ofText_text⟩
  intro text
  simp only [← ofText_eq_ok_iff]
  cases ofText text with
  | error cause => simp
  | ok size => simp

theorem standard_accepted :
    standard.Visible ∧ ofText standard.text = .ok standard ∧
      WrittenSize ⟨800, 600⟩ "\u00a0+0800\tX 00600\u3000".toList ∧
      ¬∃ size, WrittenSize size "800x600x400".toList := by
  obtain ⟨accepted, refused, given⟩ := ofText_accepts_written_sizes
  have spaced : ofText "\u00a0+0800\tX 00600\u3000" = .ok ⟨800, 600⟩ := by rfl
  have deeper : ofText "800x600x400" = .error (.height .invalidDigit) := by rfl
  exact ⟨visible_standard, given standard visible_standard, (accepted _ _).mp spaced,
    (refused _).mp ⟨_, deeper⟩⟩

end ImageSize

end Throughput
