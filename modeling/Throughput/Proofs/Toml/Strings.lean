import Throughput.Proofs.Toml.Characters

/-! Strings are read as they are written. -/

namespace Throughput.Toml

variable {character : Char} {content spelled text rest : List Char}

theorem hexDigit?_of_digit {value : Nat} (digit : Digit 16 value character) :
    hexDigit? character = some value := by
  have all : ∀ value < 16, hexDigit? value.digitChar = some value ∧
      hexDigit? value.digitChar.toUpper = some value := by
    decide
  obtain ⟨small, rfl | rfl⟩ := digit
  · exact (all value small).1
  · exact (all value small).2

theorem scalar?_toNat (character : Char) : scalar? character.toNat = some character := by
  have valid : character.toNat.isValidChar := character.valid
  rw [scalar?, if_pos valid, Char.ofNat_toNat]

theorem Printed.ne_break (printed : Printed character) : character ≠ '\n' ∧ character ≠ '\r' := by
  constructor <;> rintro rfl <;> revert printed <;> unfold Printed <;> decide

/-! Escapes. -/

inductive Steps (character : Char) : EscapeState → List Char → Prop
  | last {state : EscapeState} {next : Char}
      (step : escapeStep state next = some ([character], .outside)) : Steps character state [next]
  | more {state later : EscapeState} {next : Char} {rest : List Char}
      (step : escapeStep state next = some ([], later)) (pending : later ≠ .outside)
      (steps : Steps character later rest) : Steps character state (next :: rest)

theorem steps_code {digits : List Nat} {places value : Nat}
    (written : List.Forall₂ (Digit 16) digits text) (length : digits.length = places + 1)
    (code : digits.foldl (fun value digit => value * 16 + digit) value = character.toNat) :
    Steps character (.code (places + 1) value) text := by
  induction written generalizing places value with
  | nil => cases length
  | @cons digit next digits text first others ih =>
      have step : escapeStep (.code (places + 1) value) next =
          if places + 1 ≤ 1 then (scalar? (value * 16 + digit)).map fun held => ([held], .outside)
          else some ([], .code places (value * 16 + digit)) := by
        rw [escapeStep, hexDigit?_of_digit first]
        simp only [Option.bind_eq_bind, Option.bind_some, Option.pure_def, Nat.add_sub_cancel]
        cases scalar? (value * 16 + digit) <;> rfl
      cases places with
      | zero =>
          obtain rfl : digits = [] := List.length_eq_zero_iff.mp (Nat.succ.inj length)
          obtain rfl := List.forall₂_nil_left_iff.mp others
          refine .last (step.trans ?_)
          rw [if_pos (Nat.le_refl 1)]
          have last : value * 16 + digit = character.toNat := code
          rw [last, scalar?_toNat]
          rfl
      | succ places =>
          refine .more (step.trans (if_neg ?_)) nofun (ih (Nat.succ.inj length) code)
          omega

theorem steps_places {places : Nat} (code : Places 16 (places + 1) character.toNat text) :
    Steps character (.code (places + 1) 0) text := by
  obtain ⟨digits, written, length, value⟩ := code
  exact steps_code written length value

/-- A character of a string is itself, or follows a backslash. -/
theorem Spells.steps (spells : Spells character spelled) :
    (spelled = [character] ∧ Printed character ∧ character ≠ '"' ∧ character ≠ '\\') ∨
      ∃ letter rest, spelled = '\\' :: letter :: rest ∧
        letter ∈ ['b', 't', 'n', 'f', 'r', '"', '\\', 'u', 'U'] ∧ rest.length ≤ 8 ∧
          Steps character .backslash (letter :: rest) := by
  cases spells with
  | plain printed noQuote noEscape => exact .inl ⟨rfl, printed, noQuote, noEscape⟩
  | @short letter listed =>
      refine .inr ⟨letter, [], rfl, ?_, Nat.zero_le 8, .last ?_⟩
      · have letters : ∀ pair ∈ shortEscapes,
            pair.1 ∈ ['b', 't', 'n', 'f', 'r', '"', '\\', 'u', 'U'] := by
          decide
        exact letters _ listed
      · have escapes : ∀ pair ∈ shortEscapes,
            escapeStep .backslash pair.1 = some ([pair.2], .outside) := by
          decide
        exact escapes _ listed
  | @four digits code =>
      have length : digits.length = 4 := by
        obtain ⟨values, written, length, -⟩ := code
        rw [← written.length_eq, length]
      exact .inr ⟨'u', digits, rfl, by decide, by omega, .more rfl nofun (steps_places code)⟩
  | @eight digits code =>
      have length : digits.length = 8 := by
        obtain ⟨values, written, length, -⟩ := code
        rw [← written.length_eq, length]
      exact .inr ⟨'U', digits, rfl, by decide, by omega, .more rfl nofun (steps_places code)⟩

/-! Basic strings. -/

theorem basicFrom_cons {state later : EscapeState} {next : Char} {added content after : List Char}
    (inside : ¬(state = .outside ∧ next = '"')) (step : escapeStep state next = some (added, later))
    (read : basicFrom later rest = some (content, after)) :
    basicFrom state (next :: rest) = some (added ++ content, after) := by
  rw [basicFrom, if_neg inside, step]
  change (basicFrom later rest).bind _ = _
  rw [read]
  rfl

theorem basicFrom_steps {state : EscapeState} {after : List Char}
    (steps : Steps character state text) (inside : state ≠ .outside)
    (read : basicFrom .outside rest = some (content, after)) :
    basicFrom state (text ++ rest) = some (character :: content, after) := by
  induction steps with
  | last step => exact basicFrom_cons (fun both => inside both.1) step read
  | more step pending _ ih => exact basicFrom_cons (fun both => inside both.1) step (ih pending)

theorem basicFrom_spells {after : List Char} (spells : Spells character spelled)
    (read : basicFrom .outside rest = some (content, after)) :
    basicFrom .outside (spelled ++ rest) = some (character :: content, after) := by
  rcases spells.steps with ⟨rfl, printed, noQuote, noEscape⟩ | ⟨letter, escape, rfl, -, -, steps⟩
  · have step : escapeStep .outside character = some ([character], .outside) := by
      rw [escapeStep, if_neg noEscape, if_pos (isVisible_iff.mpr printed)]
    exact basicFrom_cons (fun both => noQuote both.2) step read
  · have step : escapeStep .outside '\\' = some ([], .backslash) := rfl
    exact basicFrom_cons (by decide) step (basicFrom_steps steps nofun read)

theorem basicFrom_spelled {parts : List (List Char)} (spells : List.Forall₂ Spells text parts) :
    basicFrom .outside (parts.flatten ++ '"' :: rest) = some (text, rest) := by
  induction spells with
  | nil => rfl
  | cons first _ ih =>
      rw [List.flatten_cons, List.append_assoc]
      exact basicFrom_spells first ih

theorem BasicString.readBasic {text : String} {written : List Char}
    (content : BasicString text written) (rest : List Char) :
    ∃ body, written = '"' :: body ∧ readBasic (body ++ rest) = some (text, rest) := by
  obtain ⟨parts, spells, rfl⟩ := content
  refine ⟨parts.flatten ++ ['"'], rfl, ?_⟩
  rw [Toml.readBasic, List.append_assoc, List.singleton_append, basicFrom_spelled spells]
  simp

theorem readString_basic (single : ¬['"', '"'] <+: rest) :
    readString ('"' :: rest) = readBasic rest := by
  rw [readString]
  rintro after rfl
  exact single ⟨after, rfl⟩

theorem readString_of_basic {value : String} {written : List Char}
    (content : BasicString value written) (last : ∀ next ∈ rest.head?, next ≠ '"') :
    readString (written ++ rest) = some (value, rest) := by
  obtain ⟨body, rfl, reads⟩ := content.readBasic rest
  rw [List.cons_append, readString_basic, reads]
  rintro ⟨after, starts⟩
  obtain ⟨parts, spells, written⟩ := content
  obtain rfl : body = parts.flatten ++ ['"'] := List.tail_eq_of_cons_eq written
  cases parts with
  | nil =>
      obtain rfl : '"' :: after = rest := List.tail_eq_of_cons_eq starts
      exact last '"' rfl rfl
  | cons spelled parts =>
      obtain ⟨character, -, first, -, -⟩ := List.forall₂_cons_right_iff.mp spells
      rcases first.steps with ⟨rfl, -, noQuote, -⟩ | ⟨letter, escape, rfl, -, -, -⟩
      · exact noQuote (List.head_eq_of_cons_eq starts).symm
      · exact absurd (List.head_eq_of_cons_eq starts) (by decide)

/-! Literal strings. -/

theorem LiteralString.readLiteral {value : String} {written : List Char}
    (content : LiteralString value written) (rest : List Char) :
    written = '\'' :: (value.toList ++ ['\'']) ∧
      readLiteral (value.toList ++ ['\''] ++ rest) = some (value, rest) := by
  obtain ⟨plain, rfl⟩ := content
  refine ⟨rfl, ?_⟩
  have inside : ∀ character ∈ value.toList,
      (character ≠ '\'' && isVisible character) = true := by
    intro character member
    obtain ⟨printed, noQuote⟩ := plain character member
    simp [noQuote, isVisible_iff.mpr printed]
  have taken : (value.toList ++ '\'' :: rest).takeWhile
      (fun character => character ≠ '\'' && isVisible character) = value.toList := by
    rw [List.takeWhile_append_of_pos inside, List.takeWhile_cons_of_neg (by simp),
      List.append_nil]
  rw [List.append_assoc, List.singleton_append, Toml.readLiteral, taken]
  simp

theorem readString_literal (single : ¬['\'', '\''] <+: rest) :
    readString ('\'' :: rest) = readLiteral rest := by
  rw [readString]
  rintro after rfl
  exact single ⟨after, rfl⟩

theorem readString_of_literal {value : String} {written : List Char}
    (content : LiteralString value written) (last : ∀ next ∈ rest.head?, next ≠ '\'') :
    readString (written ++ rest) = some (value, rest) := by
  obtain ⟨plain, -⟩ := id content
  obtain ⟨rfl, reads⟩ := content.readLiteral rest
  rw [List.cons_append, readString_literal, reads]
  rintro ⟨after, starts⟩
  cases characters : value.toList with
  | nil =>
      rw [characters] at starts
      obtain rfl : '\'' :: after = rest := List.tail_eq_of_cons_eq starts
      exact last '\'' rfl rfl
  | cons first others =>
      rw [characters] at starts plain
      exact (plain first List.mem_cons_self).2 (List.head_eq_of_cons_eq starts).symm

/-! Strings of several lines. -/

section Multiline

variable {quote : Char} {Piece : List Char → Prop} {quotes count : Nat}

theorem takeWhile_quotes (last : ∀ next ∈ rest.head?, next ≠ quote) :
    (List.replicate count quote ++ rest).takeWhile (· = quote) = List.replicate count quote := by
  rw [List.takeWhile_append_of_pos (by simp)]
  cases rest with
  | nil => simp
  | cons next rest =>
      rw [List.takeWhile_cons_of_neg (by simpa using last next rfl), List.append_nil]

theorem closing?_few (last : ∀ next ∈ rest.head?, next ≠ quote) (few : count < 3) :
    closing? quote (List.replicate count quote ++ rest) = none := by
  rw [closing?]
  dsimp only
  rw [takeWhile_quotes last, List.length_replicate, if_pos few]

theorem closing?_enough (last : ∀ next ∈ rest.head?, next ≠ quote) (least : 3 ≤ count)
    (most : count ≤ 5) :
    closing? quote (List.replicate count quote ++ rest) =
      some (List.replicate (count - 3) quote, rest) := by
  have kept : min (count - 3) 2 = count - 3 := by omega
  rw [closing?]
  dsimp only
  rw [takeWhile_quotes last, List.length_replicate, if_neg (by omega), kept,
    List.take_replicate, Nat.sub_add_cancel least]
  simp

/-- A string goes on behind one or two quotes, and ends with three to five. -/
theorem Multiline.quotesFirst (string : Multiline quote Piece quotes text)
    (apart : ∀ part, Piece part → ∃ next rest, part = next :: rest ∧ next ≠ quote) :
    ∃ count after, text = List.replicate count quote ++ after ∧
      (3 ≤ count ∧ count + quotes ≤ 5 ∧ after = [] ∨
        (count = 0 ∨ count + quotes ≤ 2) ∧ ∃ next rest, after = next :: rest ∧ next ≠ quote) := by
  induction string with
  | close few => exact ⟨3, [], rfl, .inl ⟨Nat.le_refl 3, by omega, rfl⟩⟩
  | quote few later ih =>
      obtain ⟨count, after, rfl, ⟨least, most, rfl⟩ | ⟨most, further⟩⟩ := ih
      · exact ⟨count + 1, [], rfl, .inl ⟨by omega, by omega, rfl⟩⟩
      · exact ⟨count + 1, after, rfl, .inr ⟨by omega, further⟩⟩
  | piece part later ih =>
      obtain ⟨next, rest, rfl, other⟩ := apart _ part
      exact ⟨0, _, rfl, .inr ⟨.inl rfl, next, _, rfl, other⟩⟩

/-- Either the string ends here, or a character of it comes next. -/
theorem Multiline.closing (string : Multiline quote Piece quotes text)
    (apart : ∀ part, Piece part → ∃ next rest, part = next :: rest ∧ next ≠ quote)
    (last : ∀ next ∈ rest.head?, next ≠ quote) :
    (∃ kept, closing? quote (text ++ rest) = some (kept, rest)) ∨
      closing? quote (text ++ rest) = none := by
  obtain ⟨count, after, rfl, ⟨least, most, rfl⟩ | ⟨most, next, further, rfl, other⟩⟩ :=
    string.quotesFirst apart
  · refine .inl ⟨List.replicate (count - 3) quote, ?_⟩
    rw [List.append_nil]
    exact closing?_enough last least (by omega)
  · refine .inr ?_
    rw [List.append_assoc]
    refine closing?_few ?_ (by omega)
    rintro _ ⟨⟩
    exact other

/-- A line break at the start may be left out. -/
theorem Multiline.skipFirstBreak (string : Multiline quote Piece quotes text)
    (breaks : ∀ part, Piece part → LineBreak part ∨
      ∃ next rest, part = next :: rest ∧ next ≠ '\n' ∧ next ≠ '\r')
    (quoted : quote ≠ '\n' ∧ quote ≠ '\r') (rest : List Char) :
    ∃ quotes later, Multiline quote Piece quotes later ∧ later.length ≤ text.length ∧
      Toml.skipFirstBreak (text ++ rest) = later ++ rest := by
  have kept {next : Char} {others : List Char} (noFeed : next ≠ '\n') (noReturn : next ≠ '\r') :
      Toml.skipFirstBreak (next :: others) = next :: others := by
    rw [Toml.skipFirstBreak, afterLineBreak?_cons noFeed noReturn]
    rfl
  cases string with
  | close few => exact ⟨_, _, .close few, Nat.le_refl _, kept quoted.1 quoted.2⟩
  | quote few later => exact ⟨_, _, .quote few later, Nat.le_refl _, kept quoted.1 quoted.2⟩
  | @piece _ part further piece later =>
      rcases breaks part piece with ends | ⟨next, others, rfl, noFeed, noReturn⟩
      · refine ⟨0, further, later, by simp, ?_⟩
        rw [List.append_assoc, Toml.skipFirstBreak, afterLineBreak?_append ends]
        rfl
      · exact ⟨quotes, _, .piece piece later, Nat.le_refl _, kept noFeed noReturn⟩

theorem linesWith_eq_some {body : Nat → Reader (List Char)}
    (string : Multiline quote Piece 0 text)
    (breaks : ∀ part, Piece part → LineBreak part ∨
      ∃ next rest, part = next :: rest ∧ next ≠ '\n' ∧ next ≠ '\r')
    (quoted : quote ≠ '\n' ∧ quote ≠ '\r') (rest : List Char)
    (reads : ∀ quotes later steps, Multiline quote Piece quotes later → later.length < steps →
      ∃ content, body steps (later ++ rest) = some (content, rest)) :
    ∃ value, linesWith body (text ++ rest) = some (value, rest) := by
  obtain ⟨quotes, later, further, shorter, skipped⟩ := string.skipFirstBreak breaks quoted rest
  obtain ⟨content, read⟩ := reads quotes later ((text ++ rest).length + 1) further
    (by rw [List.length_append]; omega)
  refine ⟨String.ofList content, ?_⟩
  rw [linesWith, skipped, read]
  rfl

end Multiline

section LiteralLines

variable {quotes steps : Nat} {after : List Char}

theorem LiteralPiece.apart {part : List Char} (piece : LiteralPiece part) :
    ∃ next rest, part = next :: rest ∧ next ≠ '\'' := by
  cases piece with
  | plain printed noQuote => exact ⟨_, [], rfl, noQuote⟩
  | lineBreak ends => rcases ends with rfl | rfl <;> exact ⟨_, _, rfl, by decide⟩

theorem literalLines_closing {input : List Char} {result : List Char × List Char}
    (closes : closing? '\'' input = some result) :
    literalLines (steps + 1) input = some result := by
  cases input with
  | nil => cases closes
  | cons first others => rw [literalLines, closes]

theorem literalLines_visible (goesOn : closing? '\'' (character :: rest) = none)
    (printed : Printed character) (read : literalLines steps rest = some (content, after)) :
    literalLines (steps + 1) (character :: rest) = some (character :: content, after) := by
  obtain ⟨noFeed, noReturn⟩ := printed.ne_break
  rw [literalLines, goesOn]
  dsimp only
  rw [afterLineBreak?_cons noFeed noReturn]
  dsimp only
  rw [if_pos (isVisible_iff.mpr printed), read]
  rfl

theorem literalLines_break {lineBreak : List Char} (ends : LineBreak lineBreak)
    (goesOn : closing? '\'' (lineBreak ++ rest) = none)
    (read : literalLines steps rest = some (content, after)) :
    literalLines (steps + 1) (lineBreak ++ rest) = some ('\n' :: content, after) := by
  have breaks := afterLineBreak?_append ends rest
  obtain ⟨first, others, split⟩ : ∃ first others, lineBreak ++ rest = first :: others := by
    rcases ends with rfl | rfl <;> exact ⟨_, _, rfl⟩
  rw [split] at goesOn breaks ⊢
  rw [literalLines, goesOn]
  dsimp only
  rw [breaks]
  dsimp only
  rw [read]
  rfl

theorem literalLines_multiline (string : Multiline '\'' LiteralPiece quotes text)
    (last : ∀ next ∈ rest.head?, next ≠ '\'') (enough : text.length < steps) :
    ∃ content, literalLines steps (text ++ rest) = some (content, rest) := by
  induction steps generalizing quotes text with
  | zero => omega
  | succ steps ih =>
      rcases string.closing (fun _ => LiteralPiece.apart) last with ⟨kept, closes⟩ | goesOn
      · exact ⟨kept, literalLines_closing closes⟩
      cases string with
      | close few =>
          have closes := closing?_enough last (Nat.le_refl 3) (by omega)
          cases goesOn.symm.trans closes
      | quote few later =>
          obtain ⟨content, read⟩ := ih later (Nat.lt_of_succ_lt_succ enough)
          exact ⟨_, literalLines_visible goesOn (.inr (by decide)) read⟩
      | @piece _ part further piece later =>
          obtain ⟨next, others, nonempty, -⟩ := piece.apart
          obtain ⟨content, read⟩ := ih later
            (by rw [List.length_append, nonempty, List.length_cons] at enough; omega)
          rw [List.append_assoc] at goesOn ⊢
          cases piece with
          | plain printed noQuote => exact ⟨_, literalLines_visible goesOn printed read⟩
          | lineBreak ends => exact ⟨_, literalLines_break ends goesOn read⟩

theorem readString_of_literalLines (string : Multiline '\'' LiteralPiece 0 text)
    (last : ∀ next ∈ rest.head?, next ≠ '\'') :
    ∃ value, readString ('\'' :: '\'' :: '\'' :: text ++ rest) = some (value, rest) := by
  refine linesWith_eq_some string ?_ (by decide) rest
    fun quotes later steps further enough => literalLines_multiline further last enough
  intro part piece
  cases piece with
  | plain printed noQuote => exact .inr ⟨_, [], rfl, printed.ne_break⟩
  | lineBreak ends => exact .inl ends

end LiteralLines

section BasicLines

variable {quotes steps : Nat} {after : List Char}

theorem BasicPiece.apart {part : List Char} (piece : BasicPiece part) :
    ∃ next rest, part = next :: rest ∧ next ≠ '"' := by
  cases piece with
  | spelled spells =>
      rcases spells.steps with ⟨rfl, -, noQuote, -⟩ | ⟨letter, escape, rfl, -⟩
      · exact ⟨_, [], rfl, noQuote⟩
      · exact ⟨_, _, rfl, by decide⟩
  | lineBreak ends => rcases ends with rfl | rfl <;> exact ⟨_, _, rfl, by decide⟩
  | continued spaced ends => exact ⟨_, _, rfl, by decide⟩

theorem BasicPiece.breaks {part : List Char} (piece : BasicPiece part) :
    LineBreak part ∨ ∃ next rest, part = next :: rest ∧ next ≠ '\n' ∧ next ≠ '\r' := by
  cases piece with
  | spelled spells =>
      rcases spells.steps with ⟨rfl, printed, -⟩ | ⟨letter, escape, rfl, -⟩
      · exact .inr ⟨_, [], rfl, printed.ne_break⟩
      · exact .inr ⟨_, _, rfl, by decide⟩
  | lineBreak ends => exact .inl ends
  | continued spaced ends => exact .inr ⟨_, _, rfl, by decide⟩

theorem basicLines_closing {input : List Char} {result : List Char × List Char}
    (closes : closing? '"' input = some result) : basicLines (steps + 1) input = some result := by
  cases input with
  | nil => cases closes
  | cons first others => rw [basicLines, closes]

theorem basicLines_visible (goesOn : closing? '"' (character :: rest) = none)
    (printed : Printed character) (noEscape : character ≠ '\\')
    (read : basicLines steps rest = some (content, after)) :
    basicLines (steps + 1) (character :: rest) = some (character :: content, after) := by
  obtain ⟨noFeed, noReturn⟩ := printed.ne_break
  rw [basicLines, goesOn]
  dsimp only
  rw [if_neg noEscape, afterLineBreak?_cons noFeed noReturn]
  dsimp only
  rw [if_pos (isVisible_iff.mpr printed), read]
  rfl

theorem basicLines_break {lineBreak : List Char} (ends : LineBreak lineBreak)
    (goesOn : closing? '"' (lineBreak ++ rest) = none)
    (read : basicLines steps rest = some (content, after)) :
    basicLines (steps + 1) (lineBreak ++ rest) = some ('\n' :: content, after) := by
  have breaks := afterLineBreak?_append ends rest
  obtain ⟨first, others, split, noEscape⟩ :
      ∃ first others, lineBreak ++ rest = first :: others ∧ first ≠ '\\' := by
    rcases ends with rfl | rfl <;> exact ⟨_, _, rfl, by decide⟩
  rw [split] at goesOn breaks ⊢
  rw [basicLines, goesOn]
  dsimp only
  rw [if_neg noEscape, breaks]
  dsimp only
  rw [read]
  rfl

theorem readEscape_steps {state : EscapeState} (escape : Steps character state text)
    (enough : text.length ≤ steps) :
    readEscape steps state (text ++ rest) = some (character, rest) := by
  induction escape generalizing steps with
  | last step =>
      obtain ⟨steps, rfl⟩ := Nat.exists_eq_add_one.mpr enough
      rw [List.cons_append, readEscape, step]
      rfl
  | more step pending _ ih =>
      obtain ⟨steps, rfl⟩ := Nat.exists_eq_add_one.mpr (Nat.lt_of_lt_of_le (by simp) enough)
      rw [List.cons_append, readEscape, step]
      exact ih (Nat.le_of_succ_le_succ enough)

theorem basicLines_escape {letter : Char} {escape : List Char}
    (goesOn : closing? '"' ('\\' :: (letter :: escape ++ rest)) = none)
    (listed : letter ∈ ['b', 't', 'n', 'f', 'r', '"', '\\', 'u', 'U'])
    (short : escape.length ≤ 8) (escapes : Steps character .backslash (letter :: escape))
    (read : basicLines steps rest = some (content, after)) :
    basicLines (steps + 1) ('\\' :: (letter :: escape ++ rest)) =
      some (character :: content, after) := by
  have all : ∀ letter ∈ ['b', 't', 'n', 'f', 'r', '"', '\\', 'u', 'U'],
      letter ∉ [' ', '\t'] ∧ letter ≠ '\n' ∧ letter ≠ '\r' :=
    List.all_iff_forall_prop.mp (by decide)
  have noBlank := all letter listed
  have inLine : afterContinuation? (letter :: escape ++ rest) = none := by
    rw [afterContinuation?, List.cons_append, skipSpaces_eq_self (by rintro _ ⟨⟩; exact noBlank.1),
      afterLineBreak?_cons noBlank.2.1 noBlank.2.2]
    rfl
  rw [basicLines, goesOn]
  dsimp only
  rw [if_pos rfl, inLine]
  dsimp only
  rw [readEscape_steps escapes (Nat.succ_le_succ short)]
  change (basicLines steps rest).bind _ = _
  rw [read]
  rfl

theorem basicLines_continued {blanks lineBreak : List Char} (spaced : Spaces blanks)
    (ends : LineBreak lineBreak)
    (goesOn : closing? '"' ('\\' :: (blanks ++ (lineBreak ++ rest))) = none) :
    basicLines (steps + 1) ('\\' :: (blanks ++ (lineBreak ++ rest))) =
      basicLines steps (skipBlankLines rest) := by
  have further : ∀ next ∈ (lineBreak ++ rest).head?, next ∉ [' ', '\t'] := by
    intro next first
    have listed := ends.head rest next first
    simp only [List.mem_cons, List.not_mem_nil, or_false] at listed
    rcases listed with rfl | rfl <;> decide
  have continued : afterContinuation? (blanks ++ (lineBreak ++ rest)) =
      some (skipBlankLines rest) := by
    rw [afterContinuation?, skipSpaces_to spaced further, afterLineBreak?_append ends]
    rfl
  rw [basicLines, goesOn]
  dsimp only
  rw [if_pos rfl, continued]

theorem skipBlankLines_cons (noSpace : character ∉ [' ', '\t']) (noFeed : character ≠ '\n')
    (noReturn : character ≠ '\r') :
    skipBlankLines (character :: rest) = character :: rest := by
  simp only [List.mem_cons, List.not_mem_nil, or_false, not_or] at noSpace
  rw [skipBlankLines]
  · exact fun _ same => noSpace.1 (List.head_eq_of_cons_eq same)
  · exact fun _ same => noSpace.2 (List.head_eq_of_cons_eq same)
  · exact fun _ same => noFeed (List.head_eq_of_cons_eq same)
  · exact fun _ same => noReturn (List.head_eq_of_cons_eq same)

/-- Blanks behind an escaped line break are left out, and the string goes on behind them. -/
theorem skipBlankLines_multiline (string : Multiline '"' BasicPiece quotes text)
    (rest : List Char) :
    ∃ quotes later, Multiline '"' BasicPiece quotes later ∧ later.length ≤ text.length ∧
      skipBlankLines (text ++ rest) = later ++ rest := by
  induction string with
  | close few => exact ⟨_, _, .close few, Nat.le_refl _, rfl⟩
  | quote few later => exact ⟨_, _, .quote few later, Nat.le_refl _, rfl⟩
  | @piece quotes part others piece later ih =>
      obtain ⟨fewer, further, string, shorter, skipped⟩ := ih
      have kept : ∀ next tail, part = next :: tail → next ∉ [' ', '\t'] → next ≠ '\n' →
          next ≠ '\r' → skipBlankLines (part ++ others ++ rest) = part ++ others ++ rest := by
        rintro next tail rfl noSpace noFeed noReturn
        exact skipBlankLines_cons noSpace noFeed noReturn
      have skips (blank : skipBlankLines (part ++ others ++ rest) =
          skipBlankLines (others ++ rest)) :
          ∃ quotes later, Multiline '"' BasicPiece quotes later ∧
            later.length ≤ (part ++ others).length ∧
            skipBlankLines (part ++ others ++ rest) = later ++ rest :=
        ⟨fewer, further, string, by rw [List.length_append]; omega, blank.trans skipped⟩
      cases piece with
      | lineBreak ends => rcases ends with rfl | rfl <;> exact skips rfl
      | continued spaced ends =>
          exact ⟨quotes, _, .piece (.continued spaced ends) later, Nat.le_refl _,
            kept _ _ rfl (by decide) (by decide) (by decide)⟩
      | spelled spells =>
          rcases spells.steps with ⟨rfl, printed, -⟩ | ⟨letter, escape, rfl, -⟩
          · rename_i character
            by_cases blank : character ∈ [' ', '\t']
            · simp only [List.mem_cons, List.not_mem_nil, or_false] at blank
              rcases blank with rfl | rfl <;> exact skips rfl
            · exact ⟨quotes, _, .piece (.spelled spells) later, Nat.le_refl _,
                kept _ _ rfl blank printed.ne_break.1 printed.ne_break.2⟩
          · exact ⟨quotes, _, .piece (.spelled spells) later, Nat.le_refl _,
              kept _ _ rfl (by decide) (by decide) (by decide)⟩

theorem basicLines_multiline (string : Multiline '"' BasicPiece quotes text)
    (last : ∀ next ∈ rest.head?, next ≠ '"') (enough : text.length < steps) :
    ∃ content, basicLines steps (text ++ rest) = some (content, rest) := by
  induction steps generalizing quotes text with
  | zero => omega
  | succ steps ih =>
      rcases string.closing (fun _ => BasicPiece.apart) last with ⟨kept, closes⟩ | goesOn
      · exact ⟨kept, basicLines_closing closes⟩
      cases string with
      | close few =>
          have closes := closing?_enough last (Nat.le_refl 3) (by omega)
          cases goesOn.symm.trans closes
      | quote few later =>
          obtain ⟨content, read⟩ := ih later (Nat.lt_of_succ_lt_succ enough)
          exact ⟨_, basicLines_visible goesOn (.inr (by decide)) (by decide) read⟩
      | @piece _ part further piece later =>
          obtain ⟨next, others, nonempty, -⟩ := piece.apart
          have shorter : further.length < steps := by
            rw [List.length_append, nonempty, List.length_cons] at enough
            omega
          obtain ⟨content, read⟩ := ih later shorter
          rw [List.append_assoc] at goesOn ⊢
          cases piece with
          | lineBreak ends => exact ⟨_, basicLines_break ends goesOn read⟩
          | spelled spells =>
              rcases spells.steps with ⟨rfl, printed, -, noEscape⟩ |
                ⟨letter, escape, rfl, listed, short, escapes⟩
              · exact ⟨_, basicLines_visible goesOn printed noEscape read⟩
              · exact ⟨_, basicLines_escape goesOn listed short escapes read⟩
          | @continued blanks lineBreak spaced ends =>
              obtain ⟨_, _, string, least, skipped⟩ := skipBlankLines_multiline later rest
              obtain ⟨content, read⟩ := ih string (Nat.lt_of_le_of_lt least shorter)
              refine ⟨content, ?_⟩
              rw [List.cons_append, List.cons_append, List.append_assoc] at goesOn ⊢
              rw [basicLines_continued spaced ends goesOn, skipped, read]

theorem readString_of_basicLines (string : Multiline '"' BasicPiece 0 text)
    (last : ∀ next ∈ rest.head?, next ≠ '"') :
    ∃ value, readString ('"' :: '"' :: '"' :: text ++ rest) = some (value, rest) :=
  linesWith_eq_some string (fun _ => BasicPiece.breaks) (by decide) rest
    fun _ _ _ further enough => basicLines_multiline further last enough

end BasicLines

end Throughput.Toml
