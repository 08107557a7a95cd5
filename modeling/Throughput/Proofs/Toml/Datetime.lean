import Throughput.Proofs.Toml.Numbers
import Throughput.Toml.Datetime

/-! Dates and times are read as they are written, and no number is taken for one. -/

namespace Throughput.Toml

variable {text rest : List Char}

/-! Digits at fixed places. -/

theorem readPlaces_of_digits {digits : List Nat} (written : List.Forall₂ (Digit 10) digits text)
    (rest : List Char) : readPlaces digits.length (text ++ rest) = some (digits, rest) := by
  induction written with
  | nil => rfl
  | cons digit _ ih =>
      rw [List.length_cons, List.cons_append, readPlaces, decimalDigit?_of_digit digit, ih]
      rfl

theorem Places.readBetween {places value low high : Nat} (written : Places 10 places value text)
    (least : low ≤ value) (most : value ≤ high) (rest : List Char) :
    Toml.readBetween places low high (text ++ rest) = some (value, rest) := by
  obtain ⟨digits, written, rfl, rfl⟩ := written
  rw [Toml.readBetween, readPlaces_of_digits written]
  exact if_pos ⟨least, most⟩

def afterDigits (input : List Char) : List Char :=
  input.dropWhile fun character => (decimalDigit? character).isSome

theorem afterDigits_cons {character : Char} {value : Nat}
    (digit : decimalDigit? character = some value) (rest : List Char) :
    afterDigits (character :: rest) = afterDigits rest := by
  rw [afterDigits, List.dropWhile_cons_of_pos (by rw [digit]; rfl)]
  rfl

theorem afterDigits_stop (stop : ∀ next ∈ rest.head?, decimalDigit? next = none) :
    afterDigits rest = rest := by
  cases rest with
  | nil => rfl
  | cons next rest =>
      rw [afterDigits, List.dropWhile_cons_of_neg]
      rw [stop next rfl]
      exact Bool.false_ne_true

theorem afterDigits_of_readPlaces {places : Nat} {digits : List Nat} {input : List Char}
    (read : readPlaces places input = some (digits, rest)) :
    afterDigits input = afterDigits rest := by
  induction places generalizing input digits with
  | zero => cases read; rfl
  | succ places ih =>
      cases input with
      | nil => cases read
      | cons first others =>
          rw [readPlaces] at read
          simp only [Option.bind_eq_bind, Option.bind_eq_some_iff] at read
          obtain ⟨digit, found, ⟨later, after⟩, further, same⟩ := read
          cases same
          rw [afterDigits_cons found]
          exact ih further

theorem afterDigits_of_readBetween {places low high value : Nat} {input : List Char}
    (read : readBetween places low high input = some (value, rest)) :
    afterDigits input = afterDigits rest := by
  rw [readBetween] at read
  simp only [Option.bind_eq_bind, Option.bind_eq_some_iff] at read
  obtain ⟨⟨digits, after⟩, places, checked⟩ := read
  split at checked
  · cases checked
    exact afterDigits_of_readPlaces places
  · cases checked

theorem expect_eq_some_iff {expected : Char} {input : List Char} :
    expect expected input = some rest ↔ input = expected :: rest := by
  cases input with
  | nil => simp [expect]
  | cons first others =>
      rw [expect]
      split <;> simp_all

theorem head_afterDigits_of_afterDate? {input : List Char} (read : afterDate? input = some rest) :
    (afterDigits input).head? = some '-' := by
  rw [afterDate?] at read
  simp only [Option.bind_eq_bind, Option.bind_eq_some_iff] at read
  obtain ⟨⟨year, after⟩, years, dashed, expected, -⟩ := read
  rw [expect_eq_some_iff] at expected
  dsimp only at expected
  rw [afterDigits_of_readBetween years, expected, afterDigits_stop (by rintro _ ⟨⟩; rfl)]
  rfl

theorem head_afterDigits_of_afterTime? {input : List Char} (read : afterTime? input = some rest) :
    (afterDigits input).head? = some ':' := by
  rw [afterTime?] at read
  simp only [Option.bind_eq_bind, Option.bind_eq_some_iff] at read
  obtain ⟨⟨hour, after⟩, hours, marked, expected, -⟩ := read
  rw [expect_eq_some_iff] at expected
  dsimp only at expected
  rw [afterDigits_of_readBetween hours, expected, afterDigits_stop (by rintro _ ⟨⟩; rfl)]
  rfl

theorem readBetween_none {places low high : Nat} {input : List Char}
    (stop : ∀ next ∈ input.head?, decimalDigit? next = none) :
    readBetween (places + 1) low high input = none := by
  have none : readPlaces (places + 1) input = none := by
    cases input with
    | nil => rfl
    | cons next others =>
        rw [readPlaces, stop next rfl]
        rfl
  rw [readBetween, none]
  rfl

/-! Numbers are no dates. -/

theorem readDatetime_none_of_head {input : List Char}
    (stop : ∀ next ∈ input.head?, decimalDigit? next = none) : readDatetime input = none := by
  rw [readDatetime, afterDatetime?, afterDate?, readBetween_none stop]
  change (afterTime? input).bind _ = none
  rw [afterTime?, readBetween_none stop]
  rfl

theorem readDatetime_none_of_mark {input : List Char}
    (other : ∀ next ∈ (afterDigits input).head?, next ≠ '-' ∧ next ≠ ':') :
    readDatetime input = none := by
  have noDate : afterDate? input = none := by
    rw [Option.eq_none_iff_forall_ne_some]
    intro rest read
    exact (other '-' (head_afterDigits_of_afterDate? read)).1 rfl
  have noTime : afterTime? input = none := by
    rw [Option.eq_none_iff_forall_ne_some]
    intro rest read
    exact (other ':' (head_afterDigits_of_afterTime? read)).2 rfl
  rw [readDatetime, afterDatetime?, noDate]
  change (afterTime? input).bind _ = none
  rw [noTime]
  rfl

def Unmarked (rest : List Char) : Prop :=
  ∀ next ∈ rest.head?, decimalDigit? next = none ∧ next ≠ '-' ∧ next ≠ ':'

theorem Ends.unmarked (ends : Ends rest) : Unmarked rest := of_listed ends.head (by decide)

theorem Unmarked.afterDigits (unmarked : Unmarked rest) :
    ∀ next ∈ (Toml.afterDigits rest).head?, next ≠ '-' ∧ next ≠ ':' := by
  rw [afterDigits_stop fun next first => (unmarked next first).1]
  exact fun next first => (unmarked next first).2

theorem Digits.afterDigits {digits : List Nat} (written : Digits 10 digits text)
    (unmarked : Unmarked rest) :
    ∀ next ∈ (Toml.afterDigits (text ++ rest)).head?, next ≠ '-' ∧ next ≠ ':' := by
  induction written with
  | last digit =>
      rw [List.singleton_append, afterDigits_cons (decimalDigit?_of_digit digit)]
      exact unmarked.afterDigits
  | more digit later ih =>
      rw [List.cons_append, afterDigits_cons (decimalDigit?_of_digit digit)]
      exact ih
  | apart digit later ih =>
      rw [List.cons_append, afterDigits_cons (decimalDigit?_of_digit digit), List.cons_append,
        afterDigits_stop (by rintro _ ⟨⟩; rfl)]
      rintro _ ⟨⟩
      decide

theorem readDatetime_whole {negative : Bool} {sign : List Char} {digits : List Nat}
    (signs : Sign negative sign) (whole : Whole digits text) (unmarked : Unmarked rest) :
    readDatetime (sign ++ (text ++ rest)) = none := by
  cases signs with
  | plus => exact readDatetime_none_of_head (by rintro _ ⟨⟩; rfl)
  | minus => exact readDatetime_none_of_head (by rintro _ ⟨⟩; rfl)
  | none =>
      refine readDatetime_none_of_mark ?_
      cases whole with
      | zero =>
          change ∀ next ∈ (afterDigits ('0' :: rest)).head?, _
          rw [afterDigits_cons (show decimalDigit? '0' = some 0 from rfl)]
          exact unmarked.afterDigits
      | digits written leading => exact written.afterDigits unmarked

theorem readDatetime_integer {value : Int} (written : WrittenInteger value text)
    (ends : Ends rest) : readDatetime (text ++ rest) = none := by
  obtain ⟨integer, -, -⟩ := written
  cases integer with
  | decimal signs whole =>
      rw [List.append_assoc]
      exact readDatetime_whole signs whole ends.unmarked
  | based prefixed written =>
      refine readDatetime_none_of_mark ?_
      have other : ∀ prefixed ∈ [('x', 16), ('o', 8), ('b', 2)],
          decimalDigit? prefixed.1 = none ∧ prefixed.1 ≠ '-' ∧ prefixed.1 ≠ ':' := by
        decide
      obtain ⟨noDigit, noMark⟩ := other _ prefixed
      rw [List.cons_append, List.cons_append,
        afterDigits_cons (show decimalDigit? '0' = some 0 from rfl),
        afterDigits_stop (by rintro _ ⟨⟩; exact noDigit)]
      rintro _ ⟨⟩
      exact noMark

theorem readDatetime_float (written : WrittenFloat text) (rest : List Char) :
    readDatetime (text ++ rest) = none := by
  cases written with
  | @decimal negative digits places power sign text fraction exponent signs whole fractional scaled
      marked small =>
      have unmarked : Unmarked (fraction ++ (exponent ++ rest)) :=
        of_listed (head_scaled fractional scaled marked rest) (by decide)
      rw [List.append_assoc, List.append_assoc, List.append_assoc]
      exact readDatetime_whole signs whole unmarked
  | named signs name =>
      refine readDatetime_none_of_head ?_
      rcases name with rfl | rfl <;> cases signs <;> (rintro _ ⟨⟩; rfl)

/-! Dates and times. -/

theorem foldl_digits_lt {base : Nat} {digits : List Nat}
    (written : List.Forall₂ (Digit base) digits text) (start : Nat) :
    digits.foldl (fun value digit => value * base + digit) start <
      (start + 1) * base ^ digits.length := by
  induction written generalizing start with
  | nil => simp
  | @cons digit _ digits _ first _ ih =>
      calc digits.foldl (fun value digit => value * base + digit) (start * base + digit)
          < (start * base + digit + 1) * base ^ digits.length := ih _
        _ ≤ ((start + 1) * base) * base ^ digits.length := by
          refine Nat.mul_le_mul_right _ ?_
          have := first.1
          rw [Nat.add_mul]
          omega
        _ = (start + 1) * base ^ (digits.length + 1) := by
          rw [Nat.pow_succ, Nat.mul_assoc, Nat.mul_comm base]

theorem Places.lt {base places value : Nat} (written : Places base places value text) :
    value < base ^ places := by
  obtain ⟨digits, written, rfl, rfl⟩ := written
  have bound := foldl_digits_lt written 0
  rwa [Nat.zero_add, Nat.one_mul] at bound

theorem daysIn_february (year : Nat) : daysIn year 2 = if isLeapYear year then 29 else 28 := rfl

theorem daysIn_of_ne {month : Nat} (other : month ≠ 2) (year : Nat) : 30 ≤ daysIn year month := by
  unfold daysIn
  split
  · exact absurd rfl other
  all_goals omega

theorem daysIn_long {month : Nat} (long : month ∈ [1, 3, 5, 7, 8, 10, 12]) (year : Nat) :
    daysIn year month = 31 := by
  simp only [List.mem_cons, List.not_mem_nil, or_false] at long
  rcases long with rfl | rfl | rfl | rfl | rfl | rfl | rfl <;> rfl

theorem isLeapYear_of_dvd {year : Nat} (fourth : 4 ∣ year) (century : 100 ∣ year → 400 ∣ year) :
    isLeapYear year = true := by
  simp only [isLeapYear, Bool.and_eq_true, Bool.or_eq_true, decide_eq_true_eq]
  omega

theorem Falls.le_daysIn {year month day : Nat} (falls : Falls year month day) :
    day ≤ daysIn year month := by
  obtain ⟨-, short | ⟨rfl, leap⟩ | ⟨rfl, other⟩ | ⟨rfl, long⟩⟩ := falls
  · by_cases february : month = 2
    · rw [february, daysIn_february]
      split <;> omega
    · exact Nat.le_trans short (Nat.le_trans (by decide) (daysIn_of_ne february year))
  · by_cases february : month = 2
    · obtain ⟨fourth, century⟩ := leap february
      rw [february, daysIn_february, if_pos (isLeapYear_of_dvd fourth century)]
    · exact Nat.le_trans (by decide) (daysIn_of_ne february year)
  · exact daysIn_of_ne other year
  · rw [daysIn_long long]

theorem WrittenDate.afterDate? (date : WrittenDate text) (rest : List Char) :
    Toml.afterDate? (text ++ rest) = some rest := by
  obtain ⟨years, months, days, inYear, falls⟩ := date
  simp only [List.append_assoc, List.cons_append]
  rw [Toml.afterDate?, years.readBetween (Nat.zero_le _) (Nat.le_of_lt_succ years.lt)]
  simp only [Option.bind_eq_bind, Option.bind_some, expect, if_true]
  rw [months.readBetween inYear.1 inYear.2]
  simp only [Option.bind_some, if_true]
  rw [days.readBetween falls.1 falls.le_daysIn]
  rfl

theorem isSome_of_digits {digits : List Nat} (written : List.Forall₂ (Digit 10) digits text) :
    ∀ character ∈ text, (decimalDigit? character).isSome = true := by
  induction written with
  | nil => exact nofun
  | cons digit _ ih =>
      refine List.forall_mem_cons.mpr ⟨?_, ih⟩
      rw [decimalDigit?_of_digit digit]
      rfl

def Unfractioned (rest : List Char) : Prop :=
  ∀ next ∈ rest.head?, decimalDigit? next = none ∧ next ≠ '.'

theorem SecondFraction.skipSecondFraction {fraction : List Char}
    (fractional : SecondFraction fraction) (further : Unfractioned rest) :
    Toml.skipSecondFraction (fraction ++ rest) = rest := by
  cases fractional with
  | none =>
      cases rest with
      | nil => rfl
      | cons next rest =>
          rw [List.nil_append, Toml.skipSecondFraction]
          exact fun _ _ same => (further next rfl).2 (List.head_eq_of_cons_eq same)
  | some written nonempty =>
      cases written with
      | nil => exact absurd rfl nonempty
      | @cons value digit digits text first others =>
          rw [List.cons_append, List.cons_append, Toml.skipSecondFraction,
            decimalDigit?_of_digit first]
          simp only [Option.isSome_some, if_true]
          rw [List.dropWhile_append_of_pos (isSome_of_digits others)]
          exact afterDigits_stop fun next first => (further next first).1

theorem WrittenTime.afterTime? (time : WrittenTime text) (further : Unfractioned rest) :
    Toml.afterTime? (text ++ rest) = some rest := by
  obtain ⟨hours, minutes, seconds, inDay, inHour, inMinute, fractional⟩ := time
  simp only [List.append_assoc, List.cons_append]
  rw [Toml.afterTime?, hours.readBetween (Nat.zero_le _) inDay]
  simp only [Option.bind_eq_bind, Option.bind_some, expect, if_true]
  rw [minutes.readBetween (Nat.zero_le _) inHour]
  simp only [Option.bind_some, if_true]
  rw [seconds.readBetween (Nat.zero_le _) inMinute]
  exact congrArg some (fractional.skipSecondFraction further)

theorem WrittenOffset.afterOffset? {offset : List Char} (zone : WrittenOffset offset)
    (ends : Ends rest) : (Toml.afterOffset? (offset ++ rest)).getD (offset ++ rest) = rest := by
  cases zone with
  | none =>
      have other : ∀ next ∈ rest.head?,
          ¬(next = 'Z' ∨ next = 'z') ∧ ¬(next = '+' ∨ next = '-') :=
        of_listed ends.head (by decide)
      cases rest with
      | nil => rfl
      | cons next rest =>
          obtain ⟨noZero, noSign⟩ := other next rfl
          rw [List.nil_append, Toml.afterOffset?, if_neg noZero, if_neg noSign]
          rfl
  | zero marked =>
      simp only [List.mem_cons, List.not_mem_nil, or_false] at marked
      rw [List.singleton_append, Toml.afterOffset?, if_pos marked]
      rfl
  | @apart hour minute mark first last marked hours minutes inDay inHour =>
      have signs : ¬(mark = 'Z' ∨ mark = 'z') ∧ (mark = '+' ∨ mark = '-') := by
        simp only [List.mem_cons, List.not_mem_nil, or_false] at marked
        rcases marked with rfl | rfl <;> decide
      simp only [List.append_assoc, List.cons_append]
      rw [Toml.afterOffset?, if_neg signs.1, if_pos signs.2,
        hours.readBetween (Nat.zero_le _) inDay]
      simp only [Option.bind_eq_bind, Option.bind_some, expect, if_true]
      rw [minutes.readBetween (Nat.zero_le _) inHour]
      rfl

theorem Ends.unfractioned (ends : Ends rest) : Unfractioned rest :=
  of_listed ends.head (by decide)

theorem WrittenOffset.unfractioned {offset : List Char} (zone : WrittenOffset offset)
    (ends : Ends rest) : Unfractioned (offset ++ rest) := by
  cases zone with
  | none => exact ends.unfractioned
  | zero marked =>
      simp only [List.mem_cons, List.not_mem_nil, or_false] at marked
      rintro _ ⟨⟩
      rcases marked with rfl | rfl <;> decide
  | apart marked hours minutes inDay inHour =>
      simp only [List.mem_cons, List.not_mem_nil, or_false] at marked
      rintro _ ⟨⟩
      rcases marked with rfl | rfl <;> decide

/-- No time follows a date at the end of a value. -/
theorem Ends.afterDayTime? (ends : Ends rest) : Toml.afterDayTime? rest = none := by
  cases rest with
  | nil => rfl
  | cons mark rest =>
      rw [Toml.afterDayTime?]
      split
      · rename_i marked
        have spaces : ∀ next ∈ (mark :: rest).head?,
            next = 'T' ∨ next = 't' ∨ next = ' ' → isSpace next = true :=
          of_listed ends.head (by decide)
        have spaced := spaces mark rfl marked
        have further : Ends rest := by
          rwa [Ends, skipSpaces, List.dropWhile_cons_of_pos spaced] at ends
        rw [Toml.afterTime?, readBetween_none fun next first => (further.unfractioned next first).1]
        rfl
      · rfl

theorem WrittenTime.afterDigits (time : WrittenTime text) (rest : List Char) :
    (Toml.afterDigits (text ++ rest)).head? = some ':' := by
  obtain ⟨hours, minutes, seconds, inDay, -, -, -⟩ := time
  simp only [List.append_assoc, List.cons_append]
  rw [afterDigits_of_readBetween (hours.readBetween (Nat.zero_le _) inDay _),
    afterDigits_stop (by rintro _ ⟨⟩; rfl)]
  rfl

theorem WrittenTime.afterDate? (time : WrittenTime text) (rest : List Char) :
    Toml.afterDate? (text ++ rest) = none := by
  rw [Option.eq_none_iff_forall_ne_some]
  intro after read
  cases (time.afterDigits rest).symm.trans (head_afterDigits_of_afterDate? read)

theorem afterDatetime?_append (written : WrittenDatetime text) (ends : Ends rest) :
    afterDatetime? (text ++ rest) = some rest := by
  rw [afterDatetime?]
  cases written with
  | date date =>
      rw [date.afterDate?]
      dsimp only
      rw [ends.afterDayTime?]
      rfl
  | time time =>
      rw [time.afterDate?]
      exact time.afterTime? ends.unfractioned
  | @both mark date time offset day marked hours zone =>
      simp only [List.mem_cons, List.not_mem_nil, or_false] at marked
      simp only [List.append_assoc, List.cons_append]
      rw [day.afterDate?]
      dsimp only
      rw [Toml.afterDayTime?, if_pos marked, hours.afterTime? (zone.unfractioned ends)]
      exact congrArg some (zone.afterOffset? ends)

theorem readDatetime_datetime (written : WrittenDatetime text) (ends : Ends rest) :
    readDatetime (text ++ rest) = some (.datetime (String.ofList text), rest) := by
  rw [readDatetime, afterDatetime?_append written ends]
  simp

end Throughput.Toml
