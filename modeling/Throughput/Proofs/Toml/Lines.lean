import Throughput.Proofs.Toml.Values

/-! Lines are read as they are written. -/

namespace Throughput.Toml

section Lines

variable {α : Type} {Held : α → List Char → Prop} {Means : α → Value → Prop} {item : Item α}
  {items : List (Item α)} {text rest : List Char}

structure Readable (Held : α → List Char → Prop) (Means : α → Value → Prop) : Prop where
  head : ∀ content text, Held content text → ∀ rest, ∀ next ∈ (text ++ rest).head?,
    next ∉ [' ', '\t']
  read : ∀ content text, Held content text → ∀ rest, Ends rest →
    ∃ value, Means content value ∧ readValue (depthLimit - 1) (text ++ rest) = some (value, rest)

inductive Stands (Means : α → Value → Prop) : Item α → Line → Prop
  | pair {key : String} {content : α} {value : Value} (means : Means content value) :
      Stands Means (.pair key content) (.pair ⟨[], key, value⟩)
  | header {name : String} {repeated : Bool} :
      Stands Means (.header name repeated) (.header [] name repeated)

theorem WrittenItem.head (written : WrittenItem Held item text) (rest : List Char) :
    ∃ first others, text ++ rest = first :: others ∧
      first ∉ [' ', '\t', '#', '\n', '\r', '\uFEFF'] := by
  cases written with
  | @pair key content name before after written named spaced spacedAfter holds =>
      simp only [List.append_assoc, List.cons_append]
      obtain ⟨first, others, split, -⟩ := named.head (before ++ '=' :: (after ++ (written ++ rest)))
      refine ⟨first, others, split, fun listed => ?_⟩
      have part : [' ', '\t', '#', '\n', '\r', '\uFEFF'] ⊆
          [' ', '\t', '#', '\n', '\r', '[', '\uFEFF'] := by
        simp
      exact named.head_ne _ first (by rw [split]; rfl) (part listed)
  | @header name repeated before written after spaced named spacedAfter =>
      cases repeated <;> exact ⟨'[', _, rfl, by decide⟩

/-- Nothing but blank lines is written where no item is. -/
theorem WrittenLines.items_eq_nil (written : WrittenLines Held items text) (empty : text = []) :
    items = [] := by
  induction written with
  | none => rfl
  | blank spaced commented ends later ih => exact ih (List.append_eq_nil_iff.mp empty).2
  | @item item items before text after comment lineBreak rest spaced written _ _ _ _ _ =>
      obtain ⟨first, others, split, -⟩ := written.head []
      simp only [List.append_eq_nil_iff] at empty
      rw [List.append_nil, empty.1.1.1.1.2] at split
      cases split

theorem WrittenLines.head (written : WrittenLines Held items text) :
    ∀ next ∈ text.head?, next ≠ '\uFEFF' := by
  have spaces {before tail : List Char} (spaced : Spaces before)
      (later : ∀ next ∈ tail.head?, next ≠ '\uFEFF') :
      ∀ next ∈ (before ++ tail).head?, next ≠ '\uFEFF' := by
    have other : ∀ blank ∈ before, blank ≠ '\uFEFF' := of_listed spaced (by decide)
    cases before with
    | nil => exact later
    | cons blank before =>
        rintro _ ⟨⟩
        exact other blank List.mem_cons_self
  induction written with
  | none => exact nofun
  | @blank _ before comment lineBreak rest spaced commented ends _ ih =>
      rw [List.append_assoc, List.append_assoc]
      exact spaces spaced (of_listed (head_comment commented ends) (by decide))
  | item spaced written _ _ _ _ _ =>
      obtain ⟨first, others, split, other⟩ := written.head _
      simp only [List.append_assoc]
      refine spaces spaced ?_
      rw [split]
      rintro _ ⟨⟩ rfl
      exact other (by decide)

theorem readLine_pair {key : String} {content : α} {name before after written : List Char}
    (readable : Readable Held Means) (named : WrittenName key name) (spaced : Spaces before)
    (spacedAfter : Spaces after) (holds : Held content written) {tail : List Char}
    (ends : Ends tail) (line : afterLine? tail = some rest) :
    ∃ value, Means content value ∧
      readLine (name ++ (before ++ ('=' :: (after ++ (written ++ tail))))) =
        some (.pair ⟨[], key, value⟩, rest) := by
  obtain ⟨value, means, reads⟩ := readable.read content written holds tail ends
  refine ⟨value, means, ?_⟩
  have keyed : readKey (name ++ (before ++ ('=' :: (after ++ (written ++ tail))))) =
      some (([], key), '=' :: (after ++ (written ++ tail))) :=
    readKey_name (nofun : Spaces []) named spaced (by rintro _ ⟨⟩; decide)
  have pair : readPair (readValue (depthLimit - 1))
      (name ++ (before ++ ('=' :: (after ++ (written ++ tail))))) =
        some (⟨[], key, value⟩, tail) := by
    rw [readPair, keyed]
    change (readValue (depthLimit - 1) (skipSpaces (after ++ (written ++ tail)))).bind _ = _
    rw [skipSpaces_to spacedAfter (readable.head content written holds tail), reads]
    rfl
  have noHeader (others : List Char) :
      name ++ (before ++ ('=' :: (after ++ (written ++ tail)))) ≠ '[' :: others := by
    intro same
    exact named.head_ne _ '[' (by rw [same]; rfl) (by decide)
  rw [readLine, pair]
  · change (afterLine? tail).bind _ = _
    rw [line]
    rfl
  · exact fun _ => noHeader _
  · exact noHeader

theorem readLine_header {name : String} (repeated : Bool) {before written after : List Char}
    (spaced : Spaces before) (named : WrittenName name written) (spacedAfter : Spaces after)
    {tail : List Char} (line : afterLine? tail = some rest) :
    readLine (brackets repeated '[' ++ (before ++ (written ++ (after ++
      (brackets repeated ']' ++ tail))))) = some (.header [] name repeated, rest) := by
  have keyed : readKey (before ++ (written ++ (after ++ (brackets repeated ']' ++ tail)))) =
      some (([], name), brackets repeated ']' ++ tail) :=
    readKey_name spaced named spacedAfter (by cases repeated <;> (rintro _ ⟨⟩; decide))
  cases repeated with
  | true =>
      change (readKey (before ++ (written ++ (after ++ (brackets true ']' ++ tail))))).bind _ = _
      rw [keyed]
      change (afterLine? tail).bind _ = _
      rw [line]
      rfl
  | false =>
      have single (others : List Char) :
          before ++ (written ++ (after ++ (brackets false ']' ++ tail))) ≠ '[' :: others := by
        have other : ∀ blank ∈ before, blank ≠ '[' := of_listed spaced (by decide)
        intro same
        cases before with
        | nil =>
            rw [List.nil_append] at same
            exact named.head_ne _ '[' (by rw [same]; rfl) (by decide)
        | cons blank before =>
            exact other blank List.mem_cons_self (List.head_eq_of_cons_eq same)
      change readLine ('[' :: (before ++ (written ++ (after ++ (brackets false ']' ++ tail))))) = _
      rw [readLine, keyed]
      · change (afterLine? tail).bind _ = _
        rw [line]
        rfl
      · exact single

theorem readLine_item (readable : Readable Held Means) (written : WrittenItem Held item text)
    {tail : List Char} (ends : Ends tail) (line : afterLine? tail = some rest) :
    ∃ line, Stands Means item line ∧ readLine (text ++ tail) = some (line, rest) := by
  cases written with
  | pair named spaced spacedAfter holds =>
      obtain ⟨value, means, reads⟩ :=
        readLine_pair readable named spaced spacedAfter holds ends line
      refine ⟨_, .pair means, ?_⟩
      simpa only [List.append_assoc, List.cons_append] using reads
  | header spaced named spacedAfter =>
      refine ⟨_, .header, ?_⟩
      simpa only [List.append_assoc] using readLine_header _ spaced named spacedAfter line

theorem readLines_spaces {before : List Char} (spaced : Spaces before) (steps : Nat)
    (rest : List Char) : readLines (steps + 1) (before ++ rest) = readLines (steps + 1) rest := by
  simp only [readLines, skipSpaces_append spaced]

theorem readLines_comment {content lineBreak : List Char}
    (printed : ∀ character ∈ content, Printed character) (ends : LineEnd lineBreak rest)
    (steps : Nat) :
    readLines (steps + 1) ('#' :: content ++ (lineBreak ++ rest)) = readLines steps rest := by
  have line := afterLine?_append (nofun : Spaces []) (.some printed) ends
  change (afterLine? ([] ++ ('#' :: content ++ (lineBreak ++ rest)))).bind _ = _
  rw [line]
  rfl

theorem readLines_blank {before comment lineBreak : List Char} (spaced : Spaces before)
    (commented : Comment comment) (ends : LineBreak lineBreak) (steps : Nat) :
    readLines (steps + 1) (before ++ (comment ++ (lineBreak ++ rest))) = readLines steps rest := by
  rw [readLines_spaces spaced]
  cases commented with
  | none => rcases ends with rfl | rfl <;> rfl
  | some printed => exact readLines_comment printed (.inl ends) steps

theorem readLines_last {steps : Nat} {before comment : List Char} (spaced : Spaces before)
    (commented : Comment comment) (enough : (before ++ comment).length < steps) :
    readLines steps (before ++ comment) = some [] := by
  obtain ⟨steps, rfl⟩ := Nat.exists_eq_add_one.mpr (Nat.zero_lt_of_lt enough)
  rw [readLines_spaces spaced]
  cases commented with
  | none => rfl
  | @some content printed =>
      obtain ⟨steps, rfl⟩ : ∃ later, steps = later + 1 := by
        rw [List.length_append, List.length_cons] at enough
        exact Nat.exists_eq_add_one.mpr (by omega)
      have comment := readLines_comment printed (.inr ⟨rfl, rfl⟩) (steps + 1)
      rw [List.append_nil, List.append_nil] at comment
      rw [comment]
      rfl

theorem readLines_item {before : List Char} {line : Line} (spaced : Spaces before)
    (written : WrittenItem Held item text) {tail : List Char}
    (reads : readLine (text ++ tail) = some (line, rest)) (steps : Nat) :
    readLines (steps + 1) (before ++ (text ++ tail)) = (readLines steps rest).map (line :: ·) := by
  obtain ⟨first, others, split, other⟩ := written.head tail
  simp only [List.mem_cons, List.not_mem_nil, or_false, not_or] at other
  obtain ⟨noSpace, noTab, noComment, noFeed, noReturn, -⟩ := other
  rw [split] at reads ⊢
  have kept : skipSpaces (first :: others) = first :: others := by
    refine skipSpaces_eq_self ?_
    rintro _ ⟨⟩
    simp [noSpace, noTab]
  rw [readLines_spaces spaced, readLines, kept]
  split
  · rename_i same
    cases same
  · rename_i same
    exact absurd (List.head_eq_of_cons_eq same) noComment
  · rw [afterLineBreak?_cons noFeed noReturn]
    dsimp only
    rw [reads, Option.bind_eq_bind, Option.bind_some]
    cases readLines steps rest <;> rfl

theorem readLines_written (readable : Readable Held Means) (written : WrittenLines Held items text)
    {steps : Nat} (enough : text.length < steps) :
    ∃ lines, readLines steps text = some lines ∧ List.Forall₂ (Stands Means) items lines := by
  obtain ⟨steps, rfl⟩ := Nat.exists_eq_add_one.mpr (Nat.zero_lt_of_lt enough)
  induction written generalizing steps with
  | none => exact ⟨[], rfl, .nil⟩
  | @blank items before comment lineBreak rest spaced commented ends later ih =>
      rcases ends with ends | ⟨rfl, rfl⟩
      · have shorter : rest.length < steps := by
          have breaks : 0 < lineBreak.length := by rcases ends with rfl | rfl <;> decide
          simp only [List.length_append] at enough
          omega
        obtain ⟨steps, rfl⟩ := Nat.exists_eq_add_one.mpr (Nat.zero_lt_of_lt shorter)
        rw [List.append_assoc, List.append_assoc, readLines_blank spaced commented ends]
        exact ih steps shorter
      · obtain rfl := later.items_eq_nil rfl
        rw [List.append_nil, List.append_nil] at enough ⊢
        exact ⟨[], readLines_last spaced commented enough, .nil⟩
  | @item item items before text after comment lineBreak rest spaced written spacedAfter commented
      ends later ih =>
      have shorter : rest.length < steps := by
        obtain ⟨first, others, split, -⟩ := written.head []
        rw [List.append_nil] at split
        simp only [List.length_append, split, List.length_cons] at enough
        omega
      obtain ⟨steps, rfl⟩ := Nat.exists_eq_add_one.mpr (Nat.zero_lt_of_lt shorter)
      obtain ⟨line, stands, reads⟩ := readLine_item readable written
        (ends_append spacedAfter (ends_comment commented ends))
        (afterLine?_append spacedAfter commented ends)
      obtain ⟨lines, further, others⟩ := ih steps shorter
      refine ⟨line :: lines, ?_, .cons stands others⟩
      simp only [List.append_assoc]
      rw [readLines_item spaced written reads, further]
      rfl

end Lines

end Throughput.Toml
