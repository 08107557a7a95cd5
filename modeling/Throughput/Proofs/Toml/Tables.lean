import Mathlib.Data.List.Nodup
import Throughput.Proofs.Toml.Lines

/-! Tables under headers hold what is written in them. -/

namespace Throughput.Toml

/-! From lines to sections. -/

def HeadedTable.part (table : HeadedTable Value) : Section where
  path := []
  key := table.name
  repeated := table.repeated
  pairs := table.entries.map fun entry => ⟨[], entry.1, entry.2⟩

section Sections

variable {α : Type} {Held : α → List Char → Prop} {Means : α → Value → Prop}

structure HeadedTable.Holds (Means : α → Value → Prop) (table : HeadedTable α)
    (held : HeadedTable Value) : Prop where
  name : held.name = table.name
  repeated : held.repeated = table.repeated
  entries : List.Forall₂ (fun entry value => value.1 = entry.1 ∧ Means entry.2 value.2)
    table.entries held.entries

theorem ofLines_pairs (pairs : List Pair) (lines : List Line) :
    Document.ofLines (pairs.map .pair ++ lines) =
      { Document.ofLines lines with pairs := pairs ++ (Document.ofLines lines).pairs } := by
  induction pairs with
  | nil => rfl
  | cons pair pairs ih =>
      rw [List.map_cons, List.cons_append, Document.ofLines, ih]
      rfl

theorem exists_pairs {entries : List (String × α)} {items : List (Item α)} {lines : List Line}
    (stands : List.Forall₂ (Stands Means)
      (entries.map (fun entry => .pair entry.1 entry.2) ++ items) lines) :
    ∃ (values : List (String × Value)) (others : List Line),
      List.Forall₂ (fun entry value => value.1 = entry.1 ∧ Means entry.2 value.2) entries values ∧
        List.Forall₂ (Stands Means) items others ∧
          lines = (values.map fun entry => ⟨[], entry.1, entry.2⟩).map .pair ++ others := by
  induction entries generalizing lines with
  | nil => exact ⟨[], lines, .nil, stands, rfl⟩
  | cons entry entries ih =>
      obtain ⟨line, others, first, later, rfl⟩ := List.forall₂_cons_left_iff.mp stands
      obtain ⟨values, further, hold, rest, rfl⟩ := ih later
      cases first with
      | @pair _ _ value means =>
          exact ⟨(entry.1, value) :: values, further, .cons ⟨rfl, means⟩ hold, rest, rfl⟩

theorem ofLines_tables {tables : List (HeadedTable α)} {lines : List Line}
    (stands : List.Forall₂ (Stands Means) (tables.flatMap HeadedTable.items) lines) :
    ∃ held, List.Forall₂ (HeadedTable.Holds Means) tables held ∧
      Document.ofLines lines = ⟨[], held.map HeadedTable.part⟩ := by
  induction tables generalizing lines with
  | nil =>
      obtain rfl := List.forall₂_nil_left_iff.mp stands
      exact ⟨[], .nil, rfl⟩
  | cons table tables ih =>
      rw [List.flatMap_cons, HeadedTable.items, List.cons_append] at stands
      obtain ⟨header, others, first, later, rfl⟩ := List.forall₂_cons_left_iff.mp stands
      obtain ⟨values, rest, entries, further, rfl⟩ := exists_pairs later
      obtain ⟨held, holds, document⟩ := ih further
      cases first
      refine ⟨⟨table.name, table.repeated, values⟩ :: held, .cons ⟨rfl, rfl, entries⟩ holds, ?_⟩
      rw [Document.ofLines, ofLines_pairs, document, List.append_nil]
      rfl

theorem parse?_eq_entries? (readable : Readable Held Means) {tables : List (HeadedTable α)}
    {text : String} (written : WrittenTables Held tables text.toList) :
    ∃ held, List.Forall₂ (HeadedTable.Holds Means) tables held ∧
      parse? text = Document.entries? ⟨[], held.map HeadedTable.part⟩ := by
  obtain ⟨mark, lines, marked, written, split⟩ := written
  have skipped : skipMark text.toList = lines := by
    rw [split]
    rcases marked with rfl | rfl
    · have unmarked := written.head
      cases lines with
      | nil => rfl
      | cons first rest =>
          rw [List.nil_append, skipMark]
          exact fun _ same => unmarked first rfl (List.head_eq_of_cons_eq same)
    · rfl
  obtain ⟨read, reads, stands⟩ := readLines_written readable written (Nat.lt_succ_self _)
  obtain ⟨held, holds, document⟩ := ofLines_tables stands
  refine ⟨held, holds, ?_⟩
  rw [parse?, skipped, reads]
  change (Document.ofLines read).entries? = _
  rw [document]

end Sections

/-! From sections to entries. -/

namespace Entries

variable {name : String} {entries : Entries}

theorem get?_eq_none (absent : name ∉ entries.map Prod.fst) : entries.get? name = none := by
  induction entries with
  | nil => rfl
  | cons entry entries ih =>
      rw [List.map_cons, List.mem_cons, not_or] at absent
      rw [get?, if_neg (Ne.symm absent.1), ih absent.2]

theorem update_absent (absent : name ∉ entries.map Prod.fst) (change : Option Node → Option Node)
    (others : Entries) :
    update name change (entries ++ others) = (update name change others).map (entries ++ ·) := by
  induction entries with
  | nil => simp
  | cons entry entries ih =>
      rw [List.map_cons, List.mem_cons, not_or] at absent
      rw [List.cons_append, update, if_neg (Ne.symm absent.1), ih absent.2]
      cases update name change others <;> rfl

def ofValues (values : List (String × Value)) : Entries :=
  values.map fun entry => (entry.1, .value entry.2)

/-- Pairs with distinct keys stand side by side. -/
theorem addPairs_distinct {values : List (String × Value)}
    (distinct : (entries.map Prod.fst ++ values.map Prod.fst).Nodup) :
    addPairs (values.map fun entry => ⟨[], entry.1, entry.2⟩) entries =
      some (entries ++ ofValues values) := by
  induction values generalizing entries with
  | nil => exact congrArg some (List.append_nil entries).symm
  | cons value values ih =>
      have absent : value.1 ∉ entries.map Prod.fst := by
        intro member
        exact (List.nodup_append.mp distinct).2.2 _ member _ List.mem_cons_self rfl
      have added : addPair entries ⟨[], value.1, value.2⟩ =
          some (entries ++ [(value.1, .value value.2)]) := by
        change add value.1 value.2 entries = _
        rw [add, get?_eq_none absent]
        rfl
      have later : ((entries ++ [(value.1, Node.value value.2)]).map Prod.fst ++
          values.map Prod.fst).Nodup := by
        rw [List.map_append, List.append_assoc]
        exact distinct
      rw [List.map_cons, addPairs, List.foldlM_cons, added]
      refine (ih later).trans ?_
      rw [List.append_assoc]
      rfl

end Entries

theorem finishEntries_ofValues (values : List (String × Value)) :
    finishEntries (Entries.ofValues values) = values := by
  induction values with
  | nil => rfl
  | cons value values ih =>
      rw [Entries.ofValues, List.map_cons, finishEntries, ← Entries.ofValues, ih]
      rfl

theorem finishTables_ofValues (tables : List (HeadedTable Value)) :
    finishTables (tables.map (Entries.ofValues ·.entries)) =
      tables.map (Value.table ·.entries) := by
  induction tables with
  | nil => rfl
  | cons table tables ih =>
      rw [List.map_cons, finishTables, finishEntries_ofValues, ih]
      rfl

theorem finishEntries_append (first later : Entries) :
    finishEntries (first ++ later) = finishEntries first ++ finishEntries later := by
  induction first with
  | nil => rfl
  | cons entry first ih =>
      rw [List.cons_append, finishEntries, ih]
      rfl

section Document

variable {name : String} {table : HeadedTable Value} {tables : List (HeadedTable Value)}
  {root : Entries}

theorem HeadedTable.addPairs_part (distinct : (table.entries.map Prod.fst).Nodup) :
    Entries.addPairs table.part.pairs [] = some (Entries.ofValues table.entries) :=
  Entries.addPairs_distinct distinct

theorem addTo_single (single : table.repeated = false)
    (distinct : (table.entries.map Prod.fst).Nodup) :
    table.part.addTo [] = some [(table.name, .table .header (Entries.ofValues table.entries))] := by
  have header : table.part.repeated = false := single
  rw [Section.addTo, header]
  change (Entries.addPairs table.part.pairs []).bind _ = _
  rw [table.addPairs_part distinct]
  rfl

structure IsNext (name : String) (table : HeadedTable Value) : Prop where
  name : table.name = name
  repeated : table.repeated = true
  distinct : (table.entries.map Prod.fst).Nodup

theorem addTo_next (next : IsNext name table) (absent : name ∉ root.map Prod.fst)
    (others : Entries) :
    table.part.addTo (root ++ others) =
      (Entries.append name table.part.pairs others).map (root ++ ·) := by
  have header : table.part.repeated = true := next.repeated
  obtain rfl := next.name
  rw [Section.addTo, header]
  change (Entries.addPairs table.part.pairs []).bind _ =
    ((Entries.addPairs table.part.pairs []).bind _).map _
  rw [table.addPairs_part next.distinct]
  exact Entries.update_absent absent _ others

theorem append_later (next : IsNext name table) (items : List Entries) :
    Entries.append name table.part.pairs [(name, .tables items)] =
      some [(name, .tables (items ++ [Entries.ofValues table.entries]))] := by
  change (Entries.addPairs table.part.pairs []).bind _ = _
  rw [table.addPairs_part next.distinct, Option.bind_some, Entries.update, if_pos rfl]
  rfl

theorem append_first (next : IsNext name table) :
    Entries.append name table.part.pairs [] =
      some [(name, .tables [Entries.ofValues table.entries])] := by
  change (Entries.addPairs table.part.pairs []).bind _ = _
  rw [table.addPairs_part next.distinct]
  rfl

theorem foldlM_addTo_next (next : ∀ table ∈ tables, IsNext name table)
    (absent : name ∉ root.map Prod.fst) (items : List Entries) :
    (tables.map HeadedTable.part).foldlM Section.addTo (root ++ [(name, .tables items)]) =
      some (root ++ [(name, .tables (items ++ tables.map (Entries.ofValues ·.entries)))]) := by
  induction tables generalizing items with
  | nil =>
      exact congrArg (fun items => some (root ++ [(name, Node.tables items)]))
        (List.append_nil items).symm
  | cons table tables ih =>
      obtain ⟨first, later⟩ := List.forall_mem_cons.mp next
      rw [List.map_cons, List.foldlM_cons, addTo_next first absent, append_later first]
      refine (ih later _).trans ?_
      rw [List.append_assoc]
      rfl

def gathered (name : String) (tables : List (HeadedTable Value)) : List (String × Value) :=
  match tables with
  | [] => []
  | _ => [(name, .array (tables.map (Value.table ·.entries)))]

theorem finish_gathered (name : String) (table : HeadedTable Value)
    (tables : List (HeadedTable Value)) :
    finishEntries [(name, .tables ((table :: tables).map (Entries.ofValues ·.entries)))] =
      gathered name (table :: tables) := by
  rw [finishEntries, Node.finish, finishTables_ofValues]
  rfl

theorem foldlM_addTo (next : ∀ table ∈ tables, IsNext name table)
    (absent : name ∉ root.map Prod.fst) :
    ((tables.map HeadedTable.part).foldlM Section.addTo root).map finishEntries =
      some (finishEntries root ++ gathered name tables) := by
  cases tables with
  | nil => exact congrArg some (List.append_nil _).symm
  | cons table tables =>
      obtain ⟨first, later⟩ := List.forall_mem_cons.mp next
      have started := addTo_next first absent []
      rw [List.append_nil, append_first first] at started
      have added : ((table :: tables).map HeadedTable.part).foldlM Section.addTo root =
          some (root ++
            [(name, .tables ((table :: tables).map (Entries.ofValues ·.entries)))]) := by
        rw [List.map_cons, List.foldlM_cons, started]
        exact foldlM_addTo_next later absent _
      rw [added, Option.map_some, finishEntries_append, finish_gathered]

theorem entries?_eq_map (sections : List Section) :
    Document.entries? ⟨[], sections⟩ = (sections.foldlM Section.addTo []).map finishEntries := by
  change (sections.foldlM Section.addTo []).bind _ = _
  cases sections.foldlM Section.addTo [] <;> rfl

/-- A table of its own may come before the tables of one name. -/
theorem entries?_tables {single : Option (HeadedTable Value)}
    (alone : ∀ table ∈ single, table.repeated = false ∧ table.name ≠ name ∧
      (table.entries.map Prod.fst).Nodup)
    (next : ∀ table ∈ tables, IsNext name table) :
    Document.entries? ⟨[], (single.toList ++ tables).map HeadedTable.part⟩ =
      some (single.toList.map (fun table => (table.name, .table table.entries)) ++
        gathered name tables) := by
  rw [entries?_eq_map]
  cases single with
  | none => exact foldlM_addTo next List.not_mem_nil
  | some table =>
      obtain ⟨header, other, distinct⟩ := alone table rfl
      have held : finishEntries [(table.name, .table .header (Entries.ofValues table.entries))] =
          [(table.name, .table table.entries)] := by
        rw [finishEntries, Node.finish, finishEntries_ofValues]
        rfl
      rw [Option.toList_some, List.singleton_append, List.map_cons, List.foldlM_cons,
        addTo_single header distinct, Option.bind_eq_bind, Option.bind_some,
        foldlM_addTo next (by simpa using Ne.symm other), held]
      rfl

end Document

end Throughput.Toml
