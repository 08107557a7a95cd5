import Throughput.Proofs.Toml.Strings

/-! Numbers are read as they are written. -/

namespace Throughput.Toml

variable {character : Char} {text rest : List Char} {digits : List Nat}

/-! Digits. -/

theorem digitBelow?_of_digit {base value : Nat} (digit : Digit base value character)
    (small : base ≤ 16) : digitBelow? base character = some value := by
  have hex : Digit 16 value character := ⟨Nat.lt_of_lt_of_le digit.1 small, digit.2⟩
  rw [digitBelow?, hexDigit?_of_digit hex, Option.filter_some, if_pos (decide_eq_true digit.1)]

theorem decimalDigit?_of_digit {value : Nat} (digit : Digit 10 value character) :
    decimalDigit? character = some value := by
  have all : ∀ value < 10, decimalDigit? value.digitChar = some value ∧
      decimalDigit? value.digitChar.toUpper = some value := by
    decide
  obtain ⟨small, rfl | rfl⟩ := digit
  · exact (all value small).1
  · exact (all value small).2

section DigitRun

variable {digit? : Char → Option Nat} {base : Nat}

theorem digitRun_cons {value : Nat} (digit : digit? character = some value)
    (apart : digit? '_' = none) (rest : List Char) :
    digitRun digit? (character :: rest) =
      (value :: (digitRun digit? rest).1, (digitRun digit? rest).2) := by
  have other : character ≠ '_' := by
    rintro rfl
    cases apart.symm.trans digit
  rw [digitRun]
  · rw [digit]
  · exact fun _ _ same => absurd same other

theorem digitRun_underscore {value : Nat} (digit : digit? character = some value)
    (apart : digit? '_' = none) (rest : List Char) :
    digitRun digit? ('_' :: character :: rest) = digitRun digit? (character :: rest) := by
  rw [digitRun_cons digit apart, digitRun, digit]

theorem digitRun_stop (stop : ∀ next ∈ rest.head?, digit? next = none ∧ next ≠ '_') :
    digitRun digit? rest = ([], rest) := by
  cases rest with
  | nil => rfl
  | cons next rest =>
      obtain ⟨noDigit, other⟩ := stop next rfl
      rw [digitRun]
      · rw [noDigit]
      · exact fun _ _ same => absurd same other

variable (reads : ∀ value character, Digit base value character → digit? character = some value)
  (apart : digit? '_' = none)
include reads

theorem Digits.first (written : Digits base digits text) :
    ∃ value next others, text = next :: others ∧ Digit base value next ∧
      digits.head? = some value ∧ digit? next = some value := by
  cases written with
  | last digit => exact ⟨_, _, _, rfl, digit, rfl, reads _ _ digit⟩
  | more digit later => exact ⟨_, _, _, rfl, digit, rfl, reads _ _ digit⟩
  | apart digit later => exact ⟨_, _, _, rfl, digit, rfl, reads _ _ digit⟩

include apart

theorem Digits.digitRun (written : Digits base digits text)
    (stop : ∀ next ∈ rest.head?, digit? next = none ∧ next ≠ '_') :
    Toml.digitRun digit? (text ++ rest) = (digits, rest) := by
  induction written with
  | last digit =>
      rw [List.singleton_append, digitRun_cons (reads _ _ digit) apart, digitRun_stop stop]
  | more digit later ih =>
      rw [List.cons_append, digitRun_cons (reads _ _ digit) apart, ih]
  | apart digit later ih =>
      obtain ⟨value, next, others, rfl, -, -, first⟩ := later.first reads
      rw [List.cons_append, digitRun_cons (reads _ _ digit) apart, List.cons_append,
        List.cons_append, digitRun_underscore first apart, ← List.cons_append, ih]

theorem Digits.readDigits (written : Digits base digits text)
    (stop : ∀ next ∈ rest.head?, digit? next = none ∧ next ≠ '_') :
    Toml.readDigits digit? (text ++ rest) = some (digits, rest) := by
  obtain ⟨value, next, others, rfl, -, -, first⟩ := written.first reads
  have run := written.digitRun reads apart stop
  rw [List.cons_append, digitRun_cons first apart] at run
  rw [List.cons_append, Toml.readDigits, first]
  exact congrArg some run

end DigitRun

def Stops (rest : List Char) : Prop :=
  ∀ next ∈ rest.head?, decimalDigit? next = none ∧ next ≠ '_'

theorem Ends.stops (ends : Ends rest) : Stops rest := of_listed ends.head (by decide)

theorem Digits.first_decimal (written : Digits 10 digits text) :
    ∃ value next others, text = next :: others ∧ Digit 10 value next ∧
      digits.head? = some value ∧ decimalDigit? next = some value :=
  written.first fun _ _ => decimalDigit?_of_digit

theorem Digits.readDecimals (written : Digits 10 digits text) (stops : Stops rest) :
    Toml.readDigits decimalDigit? (text ++ rest) = some (digits, rest) :=
  written.readDigits (fun _ _ => decimalDigit?_of_digit) (by decide) stops

/-! Parts of numbers. -/

theorem Sign.readSign {negative : Bool} {sign : List Char} (signs : Sign negative sign)
    (other : ∀ next ∈ rest.head?, next ≠ '+' ∧ next ≠ '-') :
    Toml.readSign (sign ++ rest) = (negative, rest) := by
  cases signs with
  | none =>
      cases rest with
      | nil => rfl
      | cons next rest =>
          obtain ⟨noPlus, noMinus⟩ := other next rfl
          rw [List.nil_append, Toml.readSign]
          · exact fun _ same => noPlus (List.head_eq_of_cons_eq same)
          · exact fun _ same => noMinus (List.head_eq_of_cons_eq same)
  | plus => rfl
  | minus => rfl

theorem Whole.first (whole : Whole digits text) :
    ∃ value next others, text = next :: others ∧ decimalDigit? next = some value := by
  cases whole with
  | zero => exact ⟨0, '0', [], rfl, rfl⟩
  | digits written =>
      obtain ⟨value, next, others, rfl, -, -, first⟩ := written.first_decimal
      exact ⟨value, next, others, rfl, first⟩

theorem Whole.readWhole (whole : Whole digits text) (stops : Stops rest) :
    Toml.readWhole (text ++ rest) = some (digits, rest) := by
  cases whole with
  | zero => rfl
  | digits written leading =>
      obtain ⟨value, next, others, rfl, -, head, first⟩ := written.first_decimal
      have nonzero : next ≠ '0' := by
        rintro rfl
        exact leading (head.trans (first.symm.trans rfl))
      rw [List.cons_append, Toml.readWhole]
      · exact written.readDecimals stops
      · exact fun _ same => nonzero (List.head_eq_of_cons_eq same)

theorem not_sign_of_digit {value : Nat} (digit : decimalDigit? character = some value) :
    character ≠ '+' ∧ character ≠ '-' := by
  constructor <;> rintro rfl <;> cases digit

theorem readSign_whole {negative : Bool} {sign : List Char} (signs : Sign negative sign)
    (whole : Whole digits text) (rest : List Char) :
    readSign (sign ++ (text ++ rest)) = (negative, text ++ rest) := by
  obtain ⟨value, next, others, rfl, digit⟩ := whole.first
  refine signs.readSign ?_
  rintro _ ⟨⟩
  exact not_sign_of_digit digit

def Unscaled (rest : List Char) : Prop :=
  ∀ next ∈ rest.head?, next ≠ '.' ∧ next ∉ ['e', 'E']

theorem Ends.unscaled (ends : Ends rest) : Unscaled rest := of_listed ends.head (by decide)

theorem readFraction_none (other : ∀ next ∈ rest.head?, next ≠ '.') : readFraction rest = none := by
  cases rest with
  | nil => rfl
  | cons next rest =>
      rw [readFraction]
      exact fun _ same => other next rfl (List.head_eq_of_cons_eq same)

theorem readExponent_none (other : ∀ next ∈ rest.head?, next ∉ ['e', 'E']) :
    readExponent rest = none := by
  cases rest with
  | nil => rfl
  | cons next rest =>
      have noMark := other next rfl
      simp only [List.mem_cons, List.not_mem_nil, or_false] at noMark
      rw [readExponent, if_neg noMark]

theorem readExponent_some {mark : Char} {negative : Bool} {sign : List Char}
    (marked : mark ∈ ['e', 'E']) (signs : Sign negative sign) (written : Digits 10 digits text)
    (stops : Stops rest) :
    readExponent (mark :: sign ++ text ++ rest) =
      some (signed negative (natOfDigits 10 digits), rest) := by
  simp only [List.mem_cons, List.not_mem_nil, or_false] at marked
  have withSign : readSign (sign ++ (text ++ rest)) = (negative, text ++ rest) := by
    obtain ⟨value, next, others, rfl, -, -, digit⟩ := written.first_decimal
    refine signs.readSign ?_
    rintro _ ⟨⟩
    exact not_sign_of_digit digit
  rw [List.append_assoc, List.cons_append, readExponent, if_pos marked, withSign]
  dsimp only
  rw [written.readDecimals stops]
  rfl

/-! Whole numbers. -/

theorem readNumber_decimal (input : List Char)
    (unprefixed : ∀ mark rest, input = '0' :: mark :: rest → mark ∉ ['x', 'o', 'b']) :
    readNumber input = (readDecimal input <|> readSpecial input <|> readInteger input) := by
  rw [readNumber]
  · exact fun rest same => unprefixed 'x' rest same (by decide)
  · exact fun rest same => unprefixed 'o' rest same (by decide)
  · exact fun rest same => unprefixed 'b' rest same (by decide)

theorem unprefixed_whole {negative : Bool} {sign : List Char} (signs : Sign negative sign)
    (whole : Whole digits text) (other : ∀ next ∈ rest.head?, next ∉ ['x', 'o', 'b']) :
    ∀ mark tail, sign ++ (text ++ rest) = '0' :: mark :: tail → mark ∉ ['x', 'o', 'b'] := by
  intro mark tail same
  cases signs with
  | plus => cases same
  | minus => cases same
  | none =>
      cases whole with
      | zero =>
          obtain rfl : rest = mark :: tail := List.tail_eq_of_cons_eq same
          exact other mark rfl
      | digits written leading =>
          obtain ⟨value, next, others, rfl, -, head, first⟩ := written.first_decimal
          obtain rfl : next = '0' := List.head_eq_of_cons_eq same
          exact absurd (head.trans (first.symm.trans rfl)) leading

theorem Ends.unprefixed (ends : Ends rest) : ∀ next ∈ rest.head?, next ∉ ['x', 'o', 'b'] :=
  of_listed ends.head (by decide)

theorem readSpecial_whole {negative : Bool} {sign : List Char} (signs : Sign negative sign)
    (whole : Whole digits text) (rest : List Char) :
    readSpecial (sign ++ (text ++ rest)) = none := by
  rw [readSpecial, readSign_whole signs whole]
  obtain ⟨value, next, others, rfl, digit⟩ := whole.first
  dsimp only
  rw [List.cons_append]
  split
  case h_3 => rfl
  all_goals
    rename_i same
    obtain rfl := List.head_eq_of_cons_eq same
    cases digit

theorem readDecimal_whole {negative : Bool} {sign : List Char} (signs : Sign negative sign)
    (whole : Whole digits text) (ends : Ends rest) :
    readDecimal (sign ++ (text ++ rest)) = none := by
  have unscaled := ends.unscaled
  have noFraction : readFraction rest = none :=
    readFraction_none fun next first => (unscaled next first).1
  have noExponent : readExponent rest = none :=
    readExponent_none fun next first => (unscaled next first).2
  rw [readDecimal, readSign_whole signs whole]
  dsimp only
  rw [whole.readWhole ends.stops, Option.bind_eq_bind, Option.bind_some]
  dsimp only
  rw [noFraction, noExponent]
  rfl

theorem inRange?_of_range {value : Int} (least : -0x8000000000000000 ≤ value)
    (most : value < 0x8000000000000000) : inRange? value = some (.integer value) :=
  if_pos ⟨least, most⟩

theorem readNumber_integer {value : Int} (written : WrittenInteger value text)
    (ends : Ends rest) : readNumber (text ++ rest) = some (.integer value, rest) := by
  obtain ⟨integer, least, most⟩ := written
  cases integer with
  | @decimal negative digits sign text signs whole =>
      rw [List.append_assoc, readNumber_decimal _ (unprefixed_whole signs whole ends.unprefixed),
        readDecimal_whole signs whole ends, readSpecial_whole signs whole]
      change readInteger _ = _
      rw [readInteger, readSign_whole signs whole]
      dsimp only
      rw [whole.readWhole ends.stops]
      change (inRange? (signed negative (natOfDigits 10 digits))).bind _ = _
      rw [inRange?_of_range least most]
      rfl
  | @based base mark digits text prefixed written =>
      have based : readNumber ('0' :: mark :: (text ++ rest)) = readBased base (text ++ rest) ∧
          base ≤ 16 := by
        simp only [List.mem_cons, List.not_mem_nil, or_false, Prod.mk.injEq] at prefixed
        rcases prefixed with ⟨rfl, rfl⟩ | ⟨rfl, rfl⟩ | ⟨rfl, rfl⟩ <;> exact ⟨rfl, by decide⟩
      have apart : digitBelow? base '_' = none := rfl
      have stops : ∀ next ∈ rest.head?, digitBelow? base next = none ∧ next ≠ '_' := by
        have unlike : ∀ next ∈ rest.head?, hexDigit? next = none ∧ next ≠ '_' :=
          of_listed ends.head (by decide)
        intro next first
        obtain ⟨noDigit, other⟩ := unlike next first
        exact ⟨by rw [digitBelow?, noDigit]; rfl, other⟩
      rw [List.cons_append, List.cons_append, based.1, readBased,
        written.readDigits (fun _ _ digit => digitBelow?_of_digit digit based.2) apart stops]
      rw [Option.bind_eq_bind, Option.bind_some]
      dsimp only
      rw [inRange?_of_range least most]
      rfl

/-! Floating point. -/

theorem readNumber_named {negative : Bool} {sign name : List Char} (signs : Sign negative sign)
    (named : name = "inf".toList ∨ name = "nan".toList) (rest : List Char) :
    ∃ value, readNumber (sign ++ (name ++ rest)) = some (value, rest) := by
  rcases named with rfl | rfl <;> cases signs <;> exact ⟨_, rfl⟩

theorem pow_le_of_places {coefficient limit : Nat} {power : Int} (positive : 0 < coefficient)
    (large : limit < (Nat.toDigits 10 coefficient).length + power) :
    10 ^ limit * 10 ^ (-power).toNat ≤ coefficient * 10 ^ power.toNat := by
  by_cases long : limit ≤ power
  · have shift : (-power).toNat = 0 ∧ limit ≤ power.toNat := by omega
    rw [shift.1, Nat.pow_zero, Nat.mul_one]
    exact Nat.le_trans (Nat.pow_le_pow_right (by decide) shift.2)
      (Nat.le_mul_of_pos_left _ positive)
  · obtain ⟨places, further, sum, nonzero⟩ :
        ∃ places, places < (Nat.toDigits 10 coefficient).length ∧
          limit + (-power).toNat = places + power.toNat ∧ 0 < places :=
      ⟨(limit - power).toNat, by omega, by omega, by omega⟩
    have digits : 10 ^ places ≤ coefficient :=
      Nat.not_lt.mp <| mt (Nat.length_toDigits_le_iff (by decide) nonzero).mpr <|
        Nat.not_le.mpr further
    rw [← Nat.pow_add, sum, Nat.pow_add]
    exact Nat.mul_le_mul_right _ digits

/-- What is too large for its number of digits alone is too large indeed. -/
theorem not_small_of_places {coefficient : Nat} {power : Int} (positive : 0 < coefficient)
    (large : placeLimit < (Nat.toDigits 10 coefficient).length + power) :
    ¬Small coefficient power := by
  obtain ⟨limit, same, overflow⟩ : ∃ limit : Nat, placeLimit = limit ∧
      Binary64.overflow ≤ 10 ^ limit :=
    ⟨400, rfl, by decide +kernel⟩
  have enough := pow_le_of_places positive (same ▸ large)
  exact Nat.not_lt.mpr (Nat.le_trans (Nat.mul_le_mul_right _ overflow) enough)

theorem neg_ne_infinite {value : Binary64} (positive : value.isNegative = false) :
    -value ≠ .infinite false := by
  cases value with
  | nan => nofun
  | infinite negative =>
      obtain rfl : negative = false := positive
      nofun
  | finite negative magnitude => nofun

theorem floatOfDecimal_ne {negative : Bool} {power : Int}
    (small : negative = true ∨ Small (natOfDigits 10 digits) power) :
    floatOfDecimal negative digits power ≠ .infinite false := by
  unfold floatOfDecimal
  dsimp only
  generalize natOfDigits 10 digits = coefficient at small ⊢
  cases negative with
  | true =>
      rw [if_pos rfl]
      refine neg_ne_infinite ?_
      split
      · rfl
      · split
        · rfl
        · exact Binary64.isNegative_round false _ _
  | false =>
      have small := small.resolve_left Bool.false_ne_true
      rw [if_neg Bool.false_ne_true]
      split
      · nofun
      · split
        · rename_i nonzero large
          have positive : 0 < coefficient := by omega
          exact absurd small (not_small_of_places positive large)
        · intro same
          have finite := Binary64.isFinite_ofRatio small
          cases (congrArg Binary64.isFinite same).symm.trans finite

theorem finiteOrBelow?_of_ne {value : Binary64} (small : value ≠ .infinite false) :
    finiteOrBelow? value = some (.float value) :=
  if_neg small

theorem Fraction.stops {places : List Nat} {fraction : List Char}
    (fractional : Fraction places fraction) (stops : Stops rest) : Stops (fraction ++ rest) := by
  cases fractional with
  | none => exact stops
  | some written =>
      rintro _ ⟨⟩
      decide

theorem Exponent.stops {power : Int} {exponent : List Char} (scaled : Exponent power exponent)
    (stops : Stops rest) : Stops (exponent ++ rest) := by
  cases scaled with
  | none => exact stops
  | some marked signs written =>
      simp only [List.mem_cons, List.not_mem_nil, or_false] at marked
      rintro _ ⟨⟩
      rcases marked with rfl | rfl <;> decide

theorem head_scaled {places : List Nat} {power : Int} {fraction exponent : List Char}
    (fractional : Fraction places fraction) (scaled : Exponent power exponent)
    (marked : fraction ++ exponent ≠ []) (rest : List Char) :
    ∀ next ∈ (fraction ++ (exponent ++ rest)).head?, next ∈ ['.', 'e', 'E'] := by
  cases fractional with
  | some written =>
      rintro _ ⟨⟩
      decide
  | none =>
      cases scaled with
      | none => exact absurd rfl marked
      | some listed signs written =>
          rintro _ ⟨⟩
          exact List.mem_cons_of_mem _ listed

theorem readDecimal_some {negative : Bool} {places : List Nat} {power : Int}
    {sign fraction exponent : List Char} (signs : Sign negative sign) (whole : Whole digits text)
    (fractional : Fraction places fraction) (scaled : Exponent power exponent)
    (marked : fraction ++ exponent ≠ []) (ends : Ends rest) :
    readDecimal (sign ++ (text ++ (fraction ++ (exponent ++ rest)))) =
      (finiteOrBelow? (floatOfDecimal negative (digits ++ places) (power - places.length))).map
        fun value => (value, rest) := by
  have stops := scaled.stops ends.stops
  have unscaled := ends.unscaled
  rw [readDecimal, readSign_whole signs whole]
  dsimp only
  rw [whole.readWhole (fractional.stops stops), Option.bind_eq_bind, Option.bind_some]
  dsimp only
  cases fractional with
  | @some _ text written =>
      have fraction : readFraction ('.' :: text ++ (exponent ++ rest)) =
          some (places, exponent ++ rest) := written.readDecimals stops
      have scale :
          (readExponent (exponent ++ rest)).getD (0, exponent ++ rest) = (power, rest) := by
        cases scaled with
        | none =>
            rw [List.nil_append, readExponent_none fun next first => (unscaled next first).2]
            rfl
        | some listed signs written =>
            rw [readExponent_some listed signs written ends.stops]
            rfl
      rw [fraction]
      dsimp only
      rw [scale]
      cases finiteOrBelow? _ <;> rfl
  | none =>
      cases scaled with
      | none => exact absurd rfl marked
      | @some mark _ _ after scale listed signs written =>
          have noFraction : readFraction (mark :: after ++ scale ++ rest) = none := by
            refine readFraction_none ?_
            rintro _ ⟨⟩ rfl
            exact absurd listed (by decide)
          rw [List.nil_append, noFraction]
          dsimp only
          rw [readExponent_some listed signs written ends.stops, List.append_nil,
            List.length_nil, Int.natCast_zero, Int.sub_zero, Option.bind_eq_bind, Option.bind_some]
          dsimp only
          cases finiteOrBelow? _ <;> rfl

theorem readNumber_float (written : WrittenFloat text) (ends : Ends rest) :
    ∃ value, readNumber (text ++ rest) = some (value, rest) := by
  cases written with
  | @decimal negative digits places power sign text fraction exponent signs whole fractional scaled
      marked small =>
      have other : ∀ next ∈ (fraction ++ (exponent ++ rest)).head?, next ∉ ['x', 'o', 'b'] :=
        of_listed (head_scaled fractional scaled marked rest) (by decide)
      let value := floatOfDecimal negative (digits ++ places) (power - places.length)
      refine ⟨.float value, ?_⟩
      rw [List.append_assoc, List.append_assoc, List.append_assoc,
        readNumber_decimal _ (unprefixed_whole signs whole other),
        readDecimal_some signs whole fractional scaled marked ends,
        finiteOrBelow?_of_ne (floatOfDecimal_ne small)]
      rfl
  | named signs name =>
      rw [List.append_assoc]
      exact readNumber_named signs name rest

end Throughput.Toml
