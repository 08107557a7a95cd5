import Throughput.Proofs.Toml.Datetime
import Throughput.Toml.Reader

/-! Values and names are read as they are written. -/

namespace Throughput.Toml

variable {text rest : List Char}

/-! Scalars. -/

def Leads (text : List Char) : Prop :=
  ∃ first others, text = first :: others ∧
    ((decimalDigit? first).isSome = true ∨ first ∈ ['+', '-', 'i', 'n'])

theorem Leads.append (leads : Leads text) (rest : List Char) : Leads (text ++ rest) := by
  obtain ⟨first, others, rfl, numeric⟩ := leads
  exact ⟨first, others ++ rest, rfl, numeric⟩

theorem Leads.head (leads : Leads text) : ∀ next ∈ text.head?,
    next ∉ ['"', '\'', 't', 'f', '[', '{', ']', '#', ' ', '\t', '\n', '\r'] := by
  have unlike : ∀ other ∈ ['"', '\'', 't', 'f', '[', '{', ']', '#', ' ', '\t', '\n', '\r'],
      ¬((decimalDigit? other).isSome = true ∨ other ∈ ['+', '-', 'i', 'n']) :=
    List.all_iff_forall_prop.mp (by decide)
  obtain ⟨first, others, rfl, numeric⟩ := leads
  rintro _ ⟨⟩ listed
  exact unlike first listed numeric

theorem leads_of_digit {first : Char} {value : Nat} (digit : decimalDigit? first = some value)
    (others : List Char) : Leads (first :: others) :=
  ⟨first, others, rfl, .inl (by rw [digit]; rfl)⟩

theorem Whole.leads {negative : Bool} {sign : List Char} {digits : List Nat}
    (signs : Sign negative sign) (whole : Whole digits text) : Leads (sign ++ text) := by
  cases signs with
  | none =>
      obtain ⟨value, next, others, rfl, digit⟩ := whole.first
      exact leads_of_digit digit others
  | plus => exact ⟨'+', text, rfl, .inr (by decide)⟩
  | minus => exact ⟨'-', text, rfl, .inr (by decide)⟩

theorem WrittenInteger.leads {value : Int} (written : WrittenInteger value text) : Leads text := by
  obtain ⟨integer, -, -⟩ := written
  cases integer with
  | decimal signs whole => exact Whole.leads signs whole
  | based prefixed written => exact ⟨'0', _, rfl, .inl rfl⟩

theorem WrittenFloat.leads (written : WrittenFloat text) : Leads text := by
  cases written with
  | decimal signs whole => exact ((Whole.leads signs whole).append _).append _
  | named signs name =>
      rcases name with rfl | rfl <;> cases signs <;> exact ⟨_, _, rfl, .inr (by decide)⟩

theorem Places.leads {places value : Nat} (written : Places 10 (places + 1) value text) :
    Leads text := by
  obtain ⟨digits, written, length, -⟩ := written
  cases written with
  | nil => cases length
  | cons digit _ => exact leads_of_digit (decimalDigit?_of_digit digit) _

theorem WrittenDate.leads (date : WrittenDate text) : Leads text := by
  obtain ⟨years, -, -, -, -⟩ := date
  exact (years.leads.append _).append _

theorem WrittenTime.leads (time : WrittenTime text) : Leads text := by
  obtain ⟨hours, -, -, -, -, -, -⟩ := time
  exact ((hours.leads.append _).append _).append _

theorem WrittenDatetime.leads (written : WrittenDatetime text) : Leads text := by
  cases written with
  | date date => exact date.leads
  | time time => exact time.leads
  | both day marked hours zone => exact (day.leads.append _).append _

theorem readScalar_of_leads (leads : Leads text) :
    readScalar text = (readDatetime text <|> readNumber text) := by
  have other := leads.head
  obtain ⟨first, others, rfl, -⟩ := leads
  have other := other first rfl
  simp only [List.mem_cons, List.not_mem_nil, or_false, not_or] at other
  obtain ⟨noQuote, noLiteral, noTrue, noFalse, -⟩ := other
  rw [readScalar]
  · exact fun _ same => noQuote (List.head_eq_of_cons_eq same)
  · exact fun _ same => noLiteral (List.head_eq_of_cons_eq same)
  · exact fun _ same => noTrue (List.head_eq_of_cons_eq same)
  · exact fun _ same => noFalse (List.head_eq_of_cons_eq same)

theorem readScalar_integer {value : Int} (written : WrittenInteger value text)
    (ends : Ends rest) : readScalar (text ++ rest) = some (.integer value, rest) := by
  rw [readScalar_of_leads (written.leads.append rest), readDatetime_integer written ends,
    readNumber_integer written ends]
  rfl

theorem readScalar_of_readString {input : List Char} {value : String}
    (read : readString input = some (value, rest)) :
    readScalar input = some (.string value, rest) := by
  have reads : (readString input).bind (fun result => some (Value.string result.1, result.2)) =
      some (.string value, rest) := by
    rw [read]
    rfl
  unfold readString at read
  split at read
  case h_5 => cases read
  all_goals exact reads

theorem readScalar_basic {value : String} (content : BasicString value text) (ends : Ends rest) :
    readScalar (text ++ rest) = some (.string value, rest) := by
  exact readScalar_of_readString (readString_of_basic content (of_listed ends.head (by decide)))

theorem readScalar_boolean {value : Bool} (written : WrittenBoolean value text)
    (rest : List Char) : readScalar (text ++ rest) = some (.boolean value, rest) := by
  cases written <;> rfl

/-- Every scalar has some value. -/
theorem readScalar_scalar (scalar : WrittenScalar text) (ends : Ends rest) :
    ∃ value, readScalar (text ++ rest) = some (value, rest) := by
  have noQuote : ∀ next ∈ rest.head?, next ≠ '\'' := of_listed ends.head (by decide)
  cases scalar with
  | basic content => exact ⟨_, readScalar_basic content ends⟩
  | literal content =>
      have reads := readString_of_literal content noQuote
      exact ⟨_, readScalar_of_readString reads⟩
  | basicLines content =>
      obtain ⟨value, reads⟩ := readString_of_basicLines content (of_listed ends.head (by decide))
      exact ⟨_, readScalar_of_readString reads⟩
  | literalLines content =>
      obtain ⟨value, reads⟩ := readString_of_literalLines content noQuote
      exact ⟨_, readScalar_of_readString reads⟩
  | integer written => exact ⟨_, readScalar_integer written ends⟩
  | float written =>
      obtain ⟨value, reads⟩ := readNumber_float written ends
      refine ⟨value, ?_⟩
      rw [readScalar_of_leads (written.leads.append rest), readDatetime_float written, reads]
      rfl
  | boolean written => exact ⟨_, readScalar_boolean written rest⟩
  | datetime written =>
      refine ⟨.datetime (String.ofList text), ?_⟩
      rw [readScalar_of_leads (written.leads.append rest), readDatetime_datetime written ends]
      rfl

/-! Arrays. -/

theorem Filler.ends {filler : List Char} (filled : Filler filler) (ends : Ends rest) :
    Ends (filler ++ rest) := by
  induction filled with
  | none => exact ends
  | @space blank _ spaced later ih =>
      have blanks : Spaces [blank] := by
        rintro _ (_ | ⟨_, ⟨⟩⟩)
        exact spaced
      have ends := ends_append blanks ih
      exact ends
  | line written breaks later ih =>
      rw [List.append_assoc, List.append_assoc]
      exact ends_comment written (.inl breaks)

theorem readItems_value {item : Reader Value} {before after : List Char} {value : Value}
    (filled : Filler before) (leads : Leads text) (steps : Nat)
    (reads : item (text ++ after) = some (value, after)) :
    readItems item (steps + 1) (before ++ (text ++ after)) =
      match skipFiller false after with
      | ',' :: rest => do
        let (values, rest) ← readItems item steps rest
        return (value :: values, rest)
      | ']' :: rest => some ([value], rest)
      | _ => none := by
  have other := (leads.append after).head
  have further : ∀ next ∈ (text ++ after).head?, next ∉ [' ', '\t', '\n', '\r', '#'] := by
    intro next first listed
    have part : [' ', '\t', '\n', '\r', '#'] ⊆
        ['"', '\'', 't', 'f', '[', '{', ']', '#', ' ', '\t', '\n', '\r'] := by
      simp
    exact other next first (part listed)
  rw [readItems, skipFiller_to filled further]
  split
  · rename_i same
    exact absurd (other ']' (by rw [same]; rfl)) (by decide)
  · rw [reads]
    rfl

theorem readItems_integers {item : Reader Value} {values : List Int} {steps : Nat}
    (reads : ∀ value text rest, WrittenInteger value text → Ends rest →
      item (text ++ rest) = some (.integer value, rest))
    (written : WrittenIntegers values text) (enough : text.length < steps) (rest : List Char) :
    readItems item steps (text ++ rest) = some (values.map .integer, rest) := by
  obtain ⟨steps, rfl⟩ := Nat.exists_eq_add_one.mpr (Nat.zero_lt_of_lt enough)
  induction written generalizing steps with
  | none filled =>
      rw [List.append_assoc, readItems, skipFiller_to filled (by rintro _ ⟨⟩; decide)]
      rfl
  | @last value before text after filled written filledAfter =>
      have ends : Ends (after ++ (']' :: rest)) :=
        filledAfter.ends (ends_of_head (by rintro _ ⟨⟩; decide))
      rw [List.append_assoc, List.append_assoc, List.append_assoc, List.singleton_append,
        readItems_value filled written.leads steps (reads _ _ _ written ends),
        skipFiller_to filledAfter (by rintro _ ⟨⟩; decide)]
      rfl
  | @more value values before text after later filled written filledAfter further ih =>
      have ends : Ends (after ++ (',' :: (later ++ rest))) :=
        filledAfter.ends (ends_of_head (by rintro _ ⟨⟩; decide))
      have shorter : later.length < steps := by
        simp only [List.length_append, List.length_cons] at enough
        omega
      obtain ⟨steps, rfl⟩ := Nat.exists_eq_add_one.mpr (Nat.zero_lt_of_lt shorter)
      rw [List.append_assoc, List.append_assoc, List.append_assoc, List.cons_append,
        readItems_value filled written.leads _ (reads _ _ _ written ends),
        skipFiller_to filledAfter (by rintro _ ⟨⟩; decide)]
      change (readItems item (steps + 1) (later ++ rest)).bind _ = _
      rw [ih steps shorter]
      rfl

/-! Values, and the names before them. -/

theorem readValue_eq_readScalar (depth : Nat) (other : ∀ next ∈ text.head?, next ∉ ['[', '{']) :
    readValue depth text = readScalar text := by
  have noArray (rest : List Char) : text ≠ '[' :: rest := by
    rintro rfl
    exact other '[' rfl (by decide)
  have noTable (rest : List Char) : text ≠ '{' :: rest := by
    rintro rfl
    exact other '{' rfl (by decide)
  cases depth <;> rw [readValue] <;> assumption

theorem WrittenScalar.head (scalar : WrittenScalar text) (rest : List Char) :
    ∀ next ∈ (text ++ rest).head?, next ∉ ['[', '{', ' ', '\t'] := by
  have leading (leads : Leads text) :
      ∀ next ∈ (text ++ rest).head?, next ∉ ['[', '{', ' ', '\t'] := by
    intro next first listed
    have part : ['[', '{', ' ', '\t'] ⊆
        ['"', '\'', 't', 'f', '[', '{', ']', '#', ' ', '\t', '\n', '\r'] := by
      simp
    exact (leads.append rest).head next first (part listed)
  cases scalar with
  | basic content =>
      obtain ⟨spelled, -, rfl⟩ := content
      rintro _ ⟨⟩
      decide
  | literal content =>
      obtain ⟨-, rfl⟩ := content
      rintro _ ⟨⟩
      decide
  | basicLines content => rintro _ ⟨⟩; decide
  | literalLines content => rintro _ ⟨⟩; decide
  | integer written => exact leading written.leads
  | float written => exact leading written.leads
  | boolean written => cases written <;> (rintro _ ⟨⟩; decide)
  | datetime written => exact leading written.leads

theorem readValue_of_scalar {depth : Nat} {value : Value} (scalar : WrittenScalar text)
    (read : readScalar (text ++ rest) = some (value, rest)) :
    readValue depth (text ++ rest) = some (value, rest) := by
  rw [readValue_eq_readScalar depth, read]
  intro next first listed
  exact scalar.head rest next first (List.mem_append_left [' ', '\t'] listed)

theorem readValue_integers {depth : Nat} {values : List Int}
    (written : WrittenIntegers values text) (rest : List Char) :
    readValue (depth + 1) ('[' :: text ++ rest) =
      some (.array (values.map .integer), rest) := by
  have items : readItems (readValue depth) ((text ++ rest).length + 1) (text ++ rest) =
      some (values.map .integer, rest) := by
    refine readItems_integers (fun value text rest written ends => ?_) written ?_ rest
    · exact readValue_of_scalar (.integer written) (readScalar_integer written ends)
    · rw [List.length_append]
      omega
  rw [List.cons_append, readValue, items]
  rfl

/-! Names. -/

theorem isBare_iff {character : Char} : isBare character = true ↔
    character.isAlphanum = true ∨ character = '_' ∨ character = '-' := by
  simp [isBare, or_assoc]

/-- The first character of a name, or its quote. -/
theorem WrittenName.head {name : String} (written : WrittenName name text) (rest : List Char) :
    ∃ first others, text ++ rest = first :: others ∧
      (isBare first = true ∨ first ∈ ['"', '\'']) := by
  cases written with
  | bare nonempty plain =>
      obtain ⟨first, others, characters⟩ := List.exists_cons_of_ne_nil nonempty
      rw [characters] at plain ⊢
      exact ⟨first, others ++ rest, rfl, .inl (isBare_iff.mpr (plain first List.mem_cons_self))⟩
  | basic content =>
      obtain ⟨spelled, -, rfl⟩ := content
      exact ⟨'"', _, rfl, .inr (by decide)⟩
  | literal content =>
      obtain ⟨-, rfl⟩ := content
      exact ⟨'\'', _, rfl, .inr (by decide)⟩

theorem WrittenName.head_ne {name : String} (written : WrittenName name text) (rest : List Char) :
    ∀ next ∈ (text ++ rest).head?, next ∉ [' ', '\t', '#', '\n', '\r', '[', '\uFEFF'] := by
  have unlike : ∀ other ∈ [' ', '\t', '#', '\n', '\r', '[', '\uFEFF'],
      ¬(isBare other = true ∨ other ∈ ['"', '\'']) :=
    List.all_iff_forall_prop.mp (by decide)
  obtain ⟨first, others, split, named⟩ := written.head rest
  rw [split]
  rintro _ ⟨⟩ listed
  exact unlike first listed named

theorem WrittenName.readName {name : String} (written : WrittenName name text)
    (last : ∀ next ∈ rest.head?, isBare next = false) :
    Toml.readName (text ++ rest) = some (name, rest) := by
  cases written with
  | bare nonempty plain =>
      have bare : ∀ character ∈ name.toList, isBare character = true :=
        fun character member => isBare_iff.mpr (plain character member)
      have stop : rest.takeWhile isBare = [] ∧ rest.dropWhile isBare = rest := by
        cases rest with
        | nil => exact ⟨rfl, rfl⟩
        | cons next rest =>
            have other : ¬isBare next = true := by
              rw [last next rfl]
              exact Bool.false_ne_true
            exact ⟨List.takeWhile_cons_of_neg other, List.dropWhile_cons_of_neg other⟩
      have unquoted (quote : Char) (noBare : isBare quote = false) (others : List Char) :
          name.toList ++ rest ≠ quote :: others := by
        intro same
        obtain ⟨first, later, characters⟩ := List.exists_cons_of_ne_nil nonempty
        rw [characters] at same bare
        obtain rfl : first = quote := List.head_eq_of_cons_eq same
        exact Bool.false_ne_true (noBare.symm.trans (bare first List.mem_cons_self))
      rw [Toml.readName]
      · rw [List.takeWhile_append_of_pos bare, List.dropWhile_append_of_pos bare, stop.1, stop.2,
          List.append_nil, String.ofList_toList, if_neg (by simpa using nonempty)]
      · exact unquoted '"' rfl
      · exact unquoted '\'' rfl
  | basic content =>
      obtain ⟨body, rfl, reads⟩ := content.readBasic rest
      exact reads
  | literal content =>
      obtain ⟨rfl, reads⟩ := content.readLiteral rest
      exact reads

theorem readKey_name {name : String} {before after : List Char} (spaced : Spaces before)
    (written : WrittenName name text) (spacedAfter : Spaces after)
    (last : ∀ next ∈ rest.head?, next ∈ ['=', ']']) :
    readKey (before ++ (text ++ (after ++ rest))) = some (([], name), rest) := by
  have further : ∀ next ∈ rest.head?, next ∉ [' ', '\t'] ∧ isBare next = false ∧ next ≠ '.' :=
    of_listed last (by decide)
  have skipped : skipSpaces (before ++ (text ++ (after ++ rest))) = text ++ (after ++ rest) := by
    refine skipSpaces_to spaced fun next first listed => ?_
    exact written.head_ne _ next first (List.mem_append_left _ listed)
  have stop : ∀ next ∈ (after ++ rest).head?, isBare next = false := by
    have noBare : ∀ blank ∈ after, isBare blank = false := of_listed spacedAfter (by decide)
    intro next first
    cases after with
    | nil => exact (further next first).2.1
    | cons blank after =>
        obtain rfl : blank = next := Option.some.inj first
        exact noBare blank List.mem_cons_self
  have only (steps : Nat) : readMoreNames (steps + 1) (after ++ rest) = some ([], rest) := by
    rw [readMoreNames, skipSpaces_to spacedAfter fun next first => (further next first).1]
    split
    · exact absurd rfl (further '.' rfl).2.2
    · rfl
  rw [readKey, skipped, written.readName stop]
  change (readMoreNames _ (after ++ rest)).bind _ = _
  rw [only]
  rfl

end Throughput.Toml
