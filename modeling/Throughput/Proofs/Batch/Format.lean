import Throughput.Batch.Decode
import Throughput.Proofs.Keyed
import Throughput.Proofs.Toml.Tables

/-!
The format of batch configurations. `Config.Written` relates a configuration to every text that
stands for it: its fields in any order, unknown ones among them, in any spelling of TOML.
-/

namespace Throughput.Config

open Toml

inductive Content
  | text (text : String)
  | path (path : Path)
  | flag (value : Bool)
  | size (extent : ImageSize)
  | ignored

namespace Content

inductive Written : Content → List Char → Prop
  | text {text : String} {written : List Char} (content : BasicString text written) :
      Written (.text text) written
  | path {text : String} {written : List Char} (content : BasicString text written) :
      Written (.path (.ofText text)) written
  | flag {value : Bool} {written : List Char} (content : WrittenBoolean value written) :
      Written (.flag value) written
  | size {extent : ImageSize} {written : List Char}
      (sides : WrittenIntegers [extent.width.toNat, extent.height.toNat] written) :
      Written (.size extent) ('[' :: written)
  | ignored {written : List Char} (scalar : WrittenScalar written) : Written .ignored written

inductive Means : Content → Value → Prop
  | text {text : String} : Means (.text text) (.string text)
  | path {text : String} : Means (.path (.ofText text)) (.string text)
  | flag {value : Bool} : Means (.flag value) (.boolean value)
  | size {extent : ImageSize} : Means (.size extent)
      (.array [.integer extent.width.toNat, .integer extent.height.toNat])
  | ignored {value : Value} : Means .ignored value

theorem readable : Readable Written Means where
  head := by
    intro content text written rest next first listed
    have scalar (scalar : WrittenScalar text) : False :=
      scalar.head rest next first (List.mem_append_right ['[', '{'] listed)
    cases written with
    | text content => exact scalar (.basic content)
    | path content => exact scalar (.basic content)
    | flag content => exact scalar (.boolean content)
    | ignored content => exact scalar content
    | size sides =>
        cases first
        exact absurd listed (by decide)
  read := by
    intro content text written rest ends
    cases written with
    | text content =>
        exact ⟨_, .text, readValue_of_scalar (.basic content) (readScalar_basic content ends)⟩
    | path content =>
        exact ⟨_, .path, readValue_of_scalar (.basic content) (readScalar_basic content ends)⟩
    | flag content =>
        exact ⟨_, .flag, readValue_of_scalar (.boolean content) (readScalar_boolean content rest)⟩
    | size sides => exact ⟨_, .size, readValue_integers sides rest⟩
    | ignored content =>
        obtain ⟨value, reads⟩ := readScalar_scalar content ends
        exact ⟨value, .ignored, readValue_of_scalar content reads⟩

end Content

/-! Fields. -/

inductive Field
  | name (text : String)
  | input (path : Path)
  | outputDirectory (path : Path)
  | title (text : String)
  | fileName (text : String)
  | size (extent : ImageSize)
  | presents (shown : Bool)
  | backend (text : String)
  | unknown (key : String)
deriving DecidableEq

namespace Field

def key : Field → String
  | .name _ => "name"
  | .input _ => "input"
  | .outputDirectory _ => "output_dir"
  | .title _ => "title"
  | .fileName _ => "file_name"
  | .size _ => "size"
  | .presents _ => "show"
  | .backend _ => "backend"
  | .unknown key => key

def content : Field → Content
  | .name text | .title text | .fileName text | .backend text => .text text
  | .input path | .outputDirectory path => .path path
  | .size extent => .size extent
  | .presents shown => .flag shown
  | .unknown _ => .ignored

def entry (field : Field) : String × Content := (field.key, field.content)

def Foreign (need : Need) : Field → Prop
  | .unknown key => key ∉ need.fields
  | _ => True

def intoDefaults (defaults : ChartDefaults) : Field → ChartDefaults
  | .outputDirectory path => { defaults with outputDirectory := some path }
  | .presents shown => { defaults with presents := some shown }
  | .backend text => { defaults with backend := some text }
  | _ => defaults

def intoChart (fields : ChartFields) : Field → ChartFields
  | .name text => { fields with name := some text }
  | .input path => { fields with input := some path }
  | .outputDirectory path => { fields with outputDirectory := some path }
  | .title text => { fields with title := some text }
  | .fileName text => { fields with fileName := some text }
  | .size extent => { fields with size := some extent }
  | .presents shown => { fields with presents := some shown }
  | _ => fields

theorem intoDefaults_comm (defaults : ChartDefaults) (one other : Field)
    (different : one.key ≠ other.key) :
    intoDefaults (intoDefaults defaults one) other =
      intoDefaults (intoDefaults defaults other) one := by
  cases one <;> cases other <;> first | rfl | exact absurd rfl different

theorem intoChart_comm (fields : ChartFields) (one other : Field)
    (different : one.key ≠ other.key) :
    intoChart (intoChart fields one) other = intoChart (intoChart fields other) one := by
  cases one <;> cases other <;> first | rfl | exact absurd rfl different

variable {field : Field} {value : Value}

theorem setDefault_unknown {key : String} (foreign : key ∉ Need.defaults.fields)
    (defaults : ChartDefaults) (value : Value) :
    setDefault defaults (key, value) = .ok defaults := by
  have apart {name : String} (known : name ∈ Need.defaults.fields) (held : Value) :
      (key, value) ≠ (name, held) := by
    rintro ⟨⟩
    exact foreign known
  rw [setDefault] <;> exact apart (by decide)

theorem setDefault_eq (foreign : field.Foreign .defaults) (means : field.content.Means value)
    (defaults : ChartDefaults) :
    setDefault defaults (field.key, value) = .ok (intoDefaults defaults field) := by
  cases field with
  | unknown key => exact setDefault_unknown foreign defaults value
  | outputDirectory path => cases means; rfl
  | presents shown => cases means; rfl
  | backend text => cases means; rfl
  | _ => rfl

theorem sideOf_toNat (side : UInt32) : sideOf (.integer side.toNat) = .ok side := by
  have range : 0 ≤ (side.toNat : Int) ∧ (side.toNat : Int) < UInt32.size :=
    ⟨Int.natCast_nonneg _, Int.ofNat_lt.mpr side.toNat_lt⟩
  rw [sideOf, if_pos range, Int.toNat_natCast, UInt32.ofNat_toNat]

theorem setField_unknown {key : String} (foreign : key ∉ Need.chart.fields)
    (fields : ChartFields) (value : Value) : setField fields (key, value) = .ok fields := by
  have apart {name : String} (known : name ∈ Need.chart.fields) (held : Value) :
      (key, value) ≠ (name, held) := by
    rintro ⟨⟩
    exact foreign known
  rw [setField] <;> exact apart (by decide)

theorem setField_eq (foreign : field.Foreign .chart) (means : field.content.Means value)
    (fields : ChartFields) :
    setField fields (field.key, value) = .ok (intoChart fields field) := by
  cases field with
  | unknown key => exact setField_unknown foreign fields value
  | size extent =>
      cases means
      change (sizeOf (.array [.integer extent.width.toNat, .integer extent.height.toNat]) >>= _) = _
      rw [sizeOf, sideOf_toNat, sideOf_toNat]
      rfl
  | backend text => rfl
  | _ => cases means; rfl

end Field

/-! Tables. -/

def givenDefaults (defaults : ChartDefaults) : List Field :=
  (defaults.outputDirectory.map .outputDirectory).toList ++
    (defaults.presents.map .presents).toList ++ (defaults.backend.map .backend).toList

def givenChart (entry : ChartEntry) : List Field :=
  [.name entry.name] ++ [.input entry.input] ++
    (entry.outputDirectory.map .outputDirectory).toList ++ (entry.title.map .title).toList ++
    (entry.fileName.map .fileName).toList ++ (entry.size.map .size).toList ++
    (entry.presents.map .presents).toList

/-- The given fields in any order, with unknown ones under further keys among them. -/
def IsBody (need : Need) (given body : List Field) : Prop :=
  ∃ unknown : List String, body.Perm (given ++ unknown.map .unknown) ∧ unknown.Nodup ∧
    ∀ key ∈ unknown, key ∉ need.fields

def defaultsTable (body : List Field) : HeadedTable Content :=
  ⟨"defaults", false, body.map Field.entry⟩

def chartTable (body : List Field) : HeadedTable Content :=
  ⟨"chart", true, body.map Field.entry⟩

def Written (config : Config) (text : String) : Prop :=
  ∃ (defaults : Option (List Field)) (charts : List (List Field)),
    (∀ body ∈ defaults, IsBody .defaults (givenDefaults config.defaults) body) ∧
      (defaults = none → config.defaults = ChartDefaults.none) ∧
      List.Forall₂ (IsBody .chart) (config.charts.map givenChart) charts ∧
      WrittenTables Content.Written
        ((defaults.map defaultsTable).toList ++ charts.map chartTable) text.toList

theorem keys_givenDefaults (defaults : ChartDefaults) :
    ((givenDefaults defaults).map Field.key).Sublist Need.defaults.fields := by
  simp only [givenDefaults, List.map_append]
  exact ((Keyed.keys_toList Field.outputDirectory (fun _ => rfl) defaults.outputDirectory).append
    (Keyed.keys_toList Field.presents (fun _ => rfl) defaults.presents)).append
    (Keyed.keys_toList Field.backend (fun _ => rfl) defaults.backend)

theorem keys_givenChart (entry : ChartEntry) :
    ((givenChart entry).map Field.key).Sublist Need.chart.fields := by
  simp only [givenChart, List.map_append]
  exact ((((((List.Sublist.refl ["name"]).append (List.Sublist.refl ["input"])).append
    (Keyed.keys_toList Field.outputDirectory (fun _ => rfl) entry.outputDirectory)).append
    (Keyed.keys_toList Field.title (fun _ => rfl) entry.title)).append
    (Keyed.keys_toList Field.fileName (fun _ => rfl) entry.fileName)).append
    (Keyed.keys_toList Field.size (fun _ => rfl) entry.size)).append
    (Keyed.keys_toList Field.presents (fun _ => rfl) entry.presents)

section Body

variable {need : Need} {given body : List Field}

theorem nodup_fields (need : Need) : need.fields.Nodup := by
  cases need <;> decide

theorem IsBody.distinct (isBody : IsBody need given body)
    (known : (given.map Field.key).Sublist need.fields) : (body.map Field.key).Nodup := by
  obtain ⟨unknown, permuted, distinct, foreign⟩ := isBody
  have keys : (unknown.map Field.unknown).map Field.key = unknown := by
    rw [List.map_map]
    exact List.map_id unknown
  rw [(permuted.map Field.key).nodup_iff, List.map_append, keys]
  refine ((nodup_fields need).sublist known).append distinct fun key first second => ?_
  exact foreign key second (known.subset first)

theorem IsBody.foreign (isBody : IsBody need given body)
    (known : ∀ field ∈ given, field.Foreign need) : ∀ field ∈ body, field.Foreign need := by
  obtain ⟨unknown, permuted, -, foreign⟩ := isBody
  intro field member
  rcases List.mem_append.mp (permuted.subset member) with inGiven | inUnknown
  · exact known field inGiven
  · obtain ⟨key, listed, rfl⟩ := List.mem_map.mp inUnknown
    exact foreign key listed

theorem IsBody.foldl_eq {σ : Type} {apply : σ → Field → σ} (isBody : IsBody need given body)
    (known : (given.map Field.key).Sublist need.fields)
    (comm : ∀ state one other, Field.key one ≠ Field.key other →
      apply (apply state one) other = apply (apply state other) one)
    (ignores : ∀ state key, apply state (.unknown key) = state) (state : σ) :
    body.foldl apply state = given.foldl apply state := by
  have distinct := isBody.distinct known
  obtain ⟨unknown, permuted, -, -⟩ := isBody
  have ignored (keys : List String) (state : σ) :
      (keys.map Field.unknown).foldl apply state = state := by
    induction keys with
    | nil => rfl
    | cons key keys ih => rw [List.map_cons, List.foldl_cons, ignores, ih]
  rw [Keyed.foldl_eq_of_perm permuted distinct comm, List.foldl_append, ignored]

variable {values : List (String × Value)}

def Hold (body : List Field) (values : List (String × Value)) : Prop :=
  List.Forall₂ (fun entry value => value.1 = entry.1 ∧ entry.2.Means value.2)
    (body.map Field.entry) values

theorem Hold.keys (hold : Hold body values) : values.map Prod.fst = body.map Field.key := by
  induction body generalizing values with
  | nil =>
      obtain rfl := List.forall₂_nil_left_iff.mp hold
      rfl
  | cons field body ih =>
      obtain ⟨value, others, first, later, rfl⟩ := List.forall₂_cons_left_iff.mp hold
      rw [List.map_cons, List.map_cons, ih later, first.1]
      rfl

theorem Hold.foldlM_eq {σ : Type} {set : σ → String × Value → Except DecodeError σ}
    {apply : σ → Field → σ} (hold : Hold body values)
    (sets : ∀ field ∈ body, ∀ value, field.content.Means value → ∀ state,
      set state (field.key, value) = .ok (apply state field)) (state : σ) :
    values.foldlM set state = .ok (body.foldl apply state) := by
  induction body generalizing values state with
  | nil =>
      obtain rfl := List.forall₂_nil_left_iff.mp hold
      rfl
  | cons field body ih =>
      obtain ⟨setsFirst, setsLater⟩ := List.forall_mem_cons.mp sets
      obtain ⟨⟨key, value⟩, others, ⟨same, means⟩, later, rfl⟩ := List.forall₂_cons_left_iff.mp hold
      obtain rfl : key = field.key := same
      rw [List.foldlM_cons, setsFirst value means]
      exact ih later setsLater _

theorem foreign_givenDefaults {defaults : ChartDefaults} :
    ∀ field ∈ givenDefaults defaults, field.Foreign need := by
  intro field member
  cases field <;> simp_all [givenDefaults, Field.Foreign]

theorem foreign_givenChart {entry : ChartEntry} :
    ∀ field ∈ givenChart entry, field.Foreign need := by
  intro field member
  cases field <;> simp_all [givenChart, Field.Foreign]

end Body

theorem foldl_givenDefaults (defaults : ChartDefaults) :
    (givenDefaults defaults).foldl Field.intoDefaults ChartDefaults.none = defaults := by
  obtain ⟨outputDirectory, presents, backend⟩ := defaults
  cases outputDirectory <;> cases presents <;> cases backend <;> rfl

theorem foldl_givenChart (entry : ChartEntry) :
    (givenChart entry).foldl Field.intoChart {} =
      { name := some entry.name
        input := some entry.input
        outputDirectory := entry.outputDirectory
        title := entry.title
        fileName := entry.fileName
        size := entry.size
        presents := entry.presents } := by
  obtain ⟨name, input, outputDirectory, title, fileName, size, presents⟩ := entry
  cases outputDirectory <;> cases title <;> cases fileName <;> cases size <;> cases presents <;> rfl

theorem defaultsOf_table {defaults : ChartDefaults} {body : List Field}
    {values : List (String × Value)} (isBody : IsBody .defaults (givenDefaults defaults) body)
    (hold : Hold body values) : defaultsOf (.table values) = .ok defaults := by
  have foreign := isBody.foreign foreign_givenDefaults
  change values.foldlM setDefault ChartDefaults.none = _
  rw [hold.foldlM_eq fun field member value means state =>
      Field.setDefault_eq (foreign field member) means state,
    isBody.foldl_eq (keys_givenDefaults defaults) Field.intoDefaults_comm fun _ _ => rfl,
    foldl_givenDefaults]

theorem chartOf_table {entry : ChartEntry} {body : List Field} {values : List (String × Value)}
    (isBody : IsBody .chart (givenChart entry) body) (hold : Hold body values) :
    chartOf (.table values) = .ok entry := by
  have foreign := isBody.foreign foreign_givenChart
  change (values.foldlM setField {} >>= _) = _
  rw [hold.foldlM_eq fun field member value means state =>
      Field.setField_eq (foreign field member) means state,
    isBody.foldl_eq (keys_givenChart entry) Field.intoChart_comm fun _ _ => rfl,
    foldl_givenChart]
  rfl

theorem charts_held {entries : List ChartEntry} {charts : List (List Field)}
    {held : List (HeadedTable Value)}
    (bodies : List.Forall₂ (IsBody .chart) (entries.map givenChart) charts)
    (holds : List.Forall₂ (HeadedTable.Holds Content.Means) (charts.map chartTable) held) :
    (∀ table ∈ held, IsNext "chart" table) ∧
      (held.map (Value.table ·.entries)).mapM chartOf = .ok entries := by
  induction entries generalizing charts held with
  | nil =>
      obtain rfl := List.forall₂_nil_left_iff.mp bodies
      obtain rfl := List.forall₂_nil_left_iff.mp holds
      exact ⟨nofun, rfl⟩
  | cons entry entries ih =>
      obtain ⟨body, others, isBody, laterBodies, rfl⟩ := List.forall₂_cons_left_iff.mp bodies
      obtain ⟨table, later, first, laterHolds, rfl⟩ := List.forall₂_cons_left_iff.mp holds
      obtain ⟨next, decoded⟩ := ih laterBodies laterHolds
      obtain ⟨name, repeated, hold⟩ := first
      have distinct : (table.entries.map Prod.fst).Nodup := by
        rw [Hold.keys hold]
        exact isBody.distinct (keys_givenChart entry)
      refine ⟨List.forall_mem_cons.mpr ⟨⟨name, repeated, distinct⟩, next⟩, ?_⟩
      rw [List.map_cons, List.mapM_cons, chartOf_table isBody hold, decoded]
      rfl

theorem foldlM_gathered {entries : List ChartEntry} {held : List (HeadedTable Value)}
    (decoded : (held.map (Value.table ·.entries)).mapM chartOf = .ok entries)
    (defaults : ChartDefaults) :
    (gathered "chart" held).foldlM setPart ⟨defaults, []⟩ = .ok ⟨defaults, entries⟩ := by
  cases held with
  | nil =>
      obtain rfl : [] = entries := Except.ok.inj decoded
      rfl
  | cons table held =>
      change ((((table :: held).map (Value.table ·.entries)).mapM chartOf >>= _) >>= _) = _
      rw [decoded]
      rfl

theorem parse_of_entries {text : String} {parts : List (String × Value)} {config : Config}
    (parsed : parse? text = some parts) (decoded : ofEntries parts = .ok config) :
    parse text = .ok config := by
  rw [parse, parsed]
  change (ofEntries parts).mapError _ = _
  rw [decoded]
  rfl

/-- Every text for a configuration is read as that configuration. -/
theorem parse_written {config : Config} {text : String} (written : config.Written text) :
    parse text = .ok config := by
  obtain ⟨single, charts, bodies, absent, chartBodies, tables⟩ := written
  obtain ⟨held, holds, parsed⟩ := parse?_eq_entries? Content.readable tables
  obtain ⟨defaults, entries⟩ := config
  cases single with
  | none =>
      obtain rfl : defaults = ChartDefaults.none := absent rfl
      obtain ⟨next, decoded⟩ := charts_held chartBodies holds
      have alone : ∀ table ∈ (none : Option (HeadedTable Value)), table.repeated = false ∧
          table.name ≠ "chart" ∧ (table.entries.map Prod.fst).Nodup := nofun
      have document : Document.entries? ⟨[], held.map HeadedTable.part⟩ =
          some (gathered "chart" held) := entries?_tables alone next
      exact parse_of_entries (parsed.trans document) (foldlM_gathered decoded ChartDefaults.none)
  | some body =>
      have isBody : IsBody .defaults (givenDefaults defaults) body := bodies body rfl
      obtain ⟨table, rest, ⟨name, repeated, hold⟩, laterHolds, rfl⟩ :=
        List.forall₂_cons_left_iff.mp holds
      obtain ⟨next, decoded⟩ := charts_held chartBodies laterHolds
      have alone : ∀ other ∈ some table, other.repeated = false ∧ other.name ≠ "chart" ∧
          (other.entries.map Prod.fst).Nodup := by
        rintro _ ⟨⟩
        have other : "defaults" ≠ "chart" := by decide
        refine ⟨repeated, name ▸ other, ?_⟩
        rw [Hold.keys hold]
        exact isBody.distinct (keys_givenDefaults defaults)
      have document : Document.entries? ⟨[], (table :: rest).map HeadedTable.part⟩ =
          some ((table.name, .table table.entries) :: gathered "chart" rest) :=
        entries?_tables alone next
      refine parse_of_entries (parsed.trans document) ?_
      have start : setPart ⟨ChartDefaults.none, []⟩ (table.name, .table table.entries) =
          .ok ⟨defaults, []⟩ := by
        rw [name]
        change (defaultsOf (.table table.entries) >>= _) = _
        rw [defaultsOf_table isBody hold]
        rfl
      rw [ofEntries, List.foldlM_cons, start]
      exact foldlM_gathered decoded defaults

theorem shuffledConfig_parsed :
    parse ("[ defaults ]\nshow = false # hidden\nsize = true\n\n" ++
      "[[chart]]\nsize = [0x10, 0]\nname = \"a\\u00e9\"\nbackend = inf\n'input' = \"\"") =
        .ok ⟨⟨none, some false, none⟩,
          [⟨"aé", .ofText "", none, none, none, some ⟨16, 0⟩, none⟩]⟩ := by
  have unspaced : Spaces [] := nofun
  have blank : Spaces [' '] := by simp [Spaces]
  have bare (name : String) (plain : name.toList.all isBare = true) (nonempty : name.toList ≠ []) :
      WrittenName name name.toList :=
    .bare nonempty fun character member =>
      isBare_iff.mp (List.all_eq_true.mp plain character member)
  have pair {key : String} {content : Content} {name written : List Char}
      (named : WrittenName key name) (holds : content.Written written) :
      WrittenItem Content.Written (.pair key content) (name ++ [' '] ++ '=' :: [' '] ++ written) :=
    .pair named blank blank holds
  have line {item : Item Content} {items : List (Item Content)} {text rest : List Char}
      (written : WrittenItem Content.Written item text)
      (later : WrittenLines Content.Written items rest) :
      WrittenLines Content.Written (item :: items) ([] ++ text ++ [] ++ [] ++ ['\n'] ++ rest) :=
    .item unspaced written unspaced .none (.inl (.inl rfl)) later
  have hidden : Comment ('#' :: " hidden".toList) := by
    have visible : " hidden".toList.all isVisible = true := by decide
    exact .some fun character member =>
      isVisible_iff.mp (List.all_eq_true.mp visible character member)
  have ten : Digits 16 [1, 0] ['1', '0'] :=
    .more ⟨by decide, by decide⟩ (.last ⟨by decide, by decide⟩)
  have sixteen : WrittenInteger 16 ('0' :: 'x' :: ['1', '0']) :=
    ⟨.based (by decide : ('x', 16) ∈ _) ten, by decide, by decide⟩
  have zero : WrittenInteger 0 ['0'] := ⟨.decimal .none .zero, by decide, by decide⟩
  have extent : Content.Written (.size ⟨16, 0⟩) ('[' :: "0x10, 0]".toList) :=
    .size (.more .none sixteen .none (.last (.space (by decide) .none) zero .none))
  have accent : Places 16 4 'é'.toNat ['0', '0', 'e', '9'] :=
    ⟨[0, 0, 14, 9], .cons ⟨by decide, by decide⟩ (.cons ⟨by decide, by decide⟩
      (.cons ⟨by decide, by decide⟩ (.cons ⟨by decide, by decide⟩ .nil))), rfl, rfl⟩
  have plain : Spells 'a' ['a'] := .plain (.inr (by decide)) (by decide) (by decide)
  have accented : BasicString "aé" ['"', 'a', '\\', 'u', '0', '0', 'e', '9', '"'] :=
    ⟨[['a'], '\\' :: 'u' :: ['0', '0', 'e', '9']], .cons plain (.cons (.four accent) .nil), rfl⟩
  have empty : BasicString "" ['"', '"'] := ⟨[], .nil, rfl⟩
  have infinity : WrittenScalar "inf".toList := .float (.named .none (.inl rfl))
  have quoted : WrittenName "input" ('\'' :: "input".toList ++ ['\'']) := by
    have visible : ("input".toList.all fun next => isVisible next && next != '\'') = true := by
      decide
    refine .literal ⟨fun character member => ?_, rfl⟩
    simpa [isVisible_iff] using List.all_eq_true.mp visible character member
  have last := WrittenLines.item unspaced (pair quoted (.path empty)) unspaced .none
    (.inr ⟨rfl, rfl⟩) .none
  have header (repeated : Bool) {name before written after : _} (spaced : Spaces before)
      (named : WrittenName name written) (spacedAfter : Spaces after) :
      WrittenItem Content.Written (.header name repeated) _ := .header spaced named spacedAfter
  have chart := line (header true unspaced (bare "chart" (by decide) (by decide)) unspaced)
    (line (pair (bare "size" (by decide) (by decide)) extent)
      (line (pair (bare "name" (by decide) (by decide)) (.text accented))
        (line (pair (bare "backend" (by decide) (by decide)) (.ignored infinity)) last)))
  have defaults := line (header false blank (bare "defaults" (by decide) (by decide)) blank)
    (WrittenLines.item unspaced (pair (bare "show" (by decide) (by decide)) (.flag .false)) blank
      hidden (.inl (.inl rfl))
      (line (pair (bare "size" (by decide) (by decide)) (.ignored (.boolean .true)))
        (.blank unspaced .none (.inl (.inl rfl)) chart)))
  refine parse_written ⟨some [.presents false, .unknown "size"],
    [[.size ⟨16, 0⟩, .name "aé", .unknown "backend", .input (.ofText "")]], ?_, nofun,
    .cons ⟨["backend"], by decide, by decide, by decide⟩ .nil, [], _, .inl rfl, defaults, ?_⟩
  · rintro _ ⟨⟩
    exact ⟨["size"], by decide, by decide, by decide⟩
  · decide +kernel

end Throughput.Config
