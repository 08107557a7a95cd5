import Mathlib.Algebra.GroupWithZero.Nat
import Throughput.Proofs.Chart.WrittenSize
import Throughput.Proofs.CommandLine.Settings
import Throughput.Proofs.Keyed
import Throughput.Proofs.Text.WellFormed

/-!
Arguments of the plot command mean what they say, in any order. Every option is read into its own
setting whatever its value looks like, and an option that is given once more is refused.
-/

namespace Throughput.CommandLine

open Utf8

inductive PlotKey
  | outputDirectory
  | name
  | title
  | fileName
  | size
  | noShow
  | backend
deriving DecidableEq

namespace PlotKey

def argument : PlotKey → Argument → Argument
  | .outputDirectory, value => bytes "--output-dir=" ++ value
  | .name, value => bytes "--name=" ++ value
  | .title, value => bytes "--title=" ++ value
  | .fileName, value => bytes "--file-name=" ++ value
  | .size, value => bytes "--size=" ++ value
  | .noShow, _ => bytes "--no-show"
  | .backend, value => bytes "--backend=" ++ value

def long : PlotKey → String
  | .outputDirectory => "output-dir"
  | .name => "name"
  | .title => "title"
  | .fileName => "file-name"
  | .size => "size"
  | .noShow => "no-show"
  | .backend => "backend"

def place : PlotKey → Fin 8
  | .outputDirectory => 0
  | .name => 1
  | .title => 2
  | .fileName => 3
  | .size => 4
  | .noShow => 5
  | .backend => 6

def parameter (key : PlotKey) : Parameter PlotSettings := plotGrammar.options.get key.place

def attached : PlotKey → Argument → Option Argument
  | .noShow, _ => none
  | _, value => some value

theorem ofArgument_argument (key : PlotKey) (value : Argument) :
    Token.ofArgument (key.argument value) = .long (bytes key.long) (key.attached value) := by
  cases key <;> rfl

theorem ofLong?_long (key : PlotKey) :
    plotGrammar.ofLong? (bytes key.long) = some key.parameter := by
  cases key <;> rfl

end PlotKey

/-! One occurrence of an option. -/

def PlotSettings.has (settings : PlotSettings) : PlotKey → Bool
  | .outputDirectory => settings.outputDirectory.isSome
  | .name => settings.name.isSome
  | .title => settings.title.isSome
  | .fileName => settings.fileName.isSome
  | .size => settings.size.isSome
  | .noShow => settings.hidden
  | .backend => settings.backend.isSome

namespace PlotKey

variable {key other : PlotKey} {value : Argument} {settings after : PlotSettings}

theorem accept_of_has (held : settings.has key = true) (value : Argument) :
    key.parameter.accept value settings = .error (.repeated key.parameter.label) := by
  cases key <;> exact if_pos held

theorem once_accept_ok_iff {σ α : Type} {long label : String} {short : Option Char}
    {read : Argument → Except UsageError α} {get : σ → Option α} {set : σ → α → σ}
    {settings after : σ} {value : Argument} :
    (once long short label read get set).accept value settings = .ok after ↔
      get settings = none ∧ ∃ result, read value = .ok result ∧ set settings result = after := by
  simp only [once]
  cases held : get settings with
  | some earlier => simp
  | none => cases taken : read value <;> simp [Except.map]

/-- What has been given stays given, and what is taken in is given from then on. -/
theorem has_of_accept (accepted : key.parameter.accept value settings = .ok after) :
    after.has other = true ↔ other = key ∨ settings.has other = true := by
  cases key
  case noShow =>
    change (if settings.hidden then _ else _) = _ at accepted
    split at accepted
    · cases accepted
    · cases accepted
      cases other <;> simp [PlotSettings.has]
  all_goals
    obtain ⟨free, result, -, rfl⟩ := once_accept_ok_iff.mp accepted
    cases other <;> simp [PlotSettings.has]

end PlotKey

/-! Several occurrences. -/

structure Occurrence where
  key : PlotKey
  value : Argument

def Occurrence.argument (occurrence : Occurrence) : Argument :=
  occurrence.key.argument occurrence.value

def Occurrence.takeInto (settings : PlotSettings) (occurrence : Occurrence) :
    Except UsageError PlotSettings :=
  occurrence.key.parameter.accept occurrence.value settings

def takeAll (settings : PlotSettings) (occurrences : List Occurrence) :
    Except UsageError PlotSettings :=
  occurrences.foldlM Occurrence.takeInto settings

theorem takeAll_cons (settings : PlotSettings) (first : Occurrence) (rest : List Occurrence) :
    takeAll settings (first :: rest) = first.takeInto settings >>= (takeAll · rest) :=
  List.foldlM_cons

/-- An option that has been given before is refused. -/
theorem takeAll_error_of_has {settings : PlotSettings} {occurrences : List Occurrence}
    {again : Occurrence} (member : again ∈ occurrences) (held : settings.has again.key = true) :
    ∃ cause, takeAll settings occurrences = .error cause := by
  induction occurrences generalizing settings with
  | nil => cases member
  | cons first rest ih =>
      rw [takeAll_cons]
      cases taken : first.takeInto settings with
      | error cause => exact ⟨cause, rfl⟩
      | ok after =>
          rcases List.mem_cons.mp member with rfl | later
          · cases taken.symm.trans (PlotKey.accept_of_has held again.value)
          · exact ih later ((PlotKey.has_of_accept taken).mpr (.inr held))

theorem takeAll_error_of_repeated {occurrences : List Occurrence}
    (repeated : ¬(occurrences.map Occurrence.key).Nodup) (settings : PlotSettings) :
    ∃ cause, takeAll settings occurrences = .error cause := by
  induction occurrences generalizing settings with
  | nil => exact absurd List.nodup_nil repeated
  | cons first rest ih =>
      rw [takeAll_cons]
      cases taken : first.takeInto settings with
      | error cause => exact ⟨cause, rfl⟩
      | ok after =>
          by_cases further : first.key ∈ rest.map Occurrence.key
          · obtain ⟨again, member, same⟩ := List.mem_map.mp further
            exact takeAll_error_of_has member ((PlotKey.has_of_accept taken).mpr (.inl same))
          · exact ih (fun distinct => repeated (List.nodup_cons.mpr ⟨further, distinct⟩)) after

/-! What the grammar does with occurrences, and with the input behind them. -/

def ready (settings : PlotSettings) : Progress PlotSettings := ⟨settings, none, false⟩

theorem meet_attached (settings : PlotSettings) (occurrence : Occurrence) :
    (ready settings).meet occurrence.key.parameter (occurrence.key.attached occurrence.value) =
      ready <$> occurrence.takeInto settings := by
  have met : (ready settings).meet occurrence.key.parameter
      (occurrence.key.attached occurrence.value) =
        occurrence.takeInto settings >>= fun after => .ok (ready after) := by
    obtain ⟨key, value⟩ := occurrence
    cases key <;> rfl
  rw [met]
  cases occurrence.takeInto settings <;> rfl

theorem read_argument (settings : PlotSettings) (occurrence : Occurrence) (rest : List Argument) :
    plotGrammar.read false (occurrence.argument :: rest) (ready settings) =
      occurrence.takeInto settings >>= fun after => plotGrammar.read false rest (ready after) := by
  rw [Grammar.read_cons, if_neg Bool.false_ne_true, Occurrence.argument,
    PlotKey.ofArgument_argument]
  dsimp only
  rw [PlotKey.ofLong?_long]
  dsimp only
  rw [meet_attached]
  cases occurrence.takeInto settings <;> rfl

theorem read_occurrences (settings : PlotSettings) (occurrences : List Occurrence)
    (rest : List Argument) :
    plotGrammar.read false (occurrences.map Occurrence.argument ++ rest) (ready settings) =
      takeAll settings occurrences >>= fun after => plotGrammar.read false rest (ready after) := by
  induction occurrences generalizing settings with
  | nil => rfl
  | cons first others ih =>
      rw [List.map_cons, List.cons_append, read_argument, takeAll_cons, bind_assoc]
      exact bind_congr_of_ok fun after _ => ih after

def inputOperand : Parameter PlotSettings :=
  once "input" none inputLabel (pathOf inputLabel) PlotSettings.input
    fun settings value => { settings with input := some value }

/-- Behind an escape the input is taken for what it is. -/
theorem readAll_plot (occurrences : List Occurrence) (input : Argument) :
    plotGrammar.readAll {} (occurrences.map Occurrence.argument ++ [bytes "--", input]) =
      takeAll {} occurrences >>= inputOperand.accept input := by
  have escaped (settings : PlotSettings) :
      plotGrammar.read false [bytes "--", input] (ready settings) =
        .ok (⟨settings, some (inputOperand, some input), true⟩, none) := rfl
  change (plotGrammar.read false _ (ready {}) >>= _) = _
  rw [read_occurrences]
  cases takeAll {} occurrences with
  | error cause => rfl
  | ok settings =>
      change (plotGrammar.read false [bytes "--", input] (ready settings) >>= _) = _
      rw [escaped]
      change (inputOperand.accept input settings >>= _) >>= _ = inputOperand.accept input settings
      cases inputOperand.accept input settings <;> rfl

/-! Options with the values that they are given. -/

inductive PlotOption
  | outputDirectory (path : Path)
  | name (text : String)
  | title (text : String)
  | fileName (text : String)
  | size (extent : ImageSize)
  | noShow
  | backend (chosen : Backend)
deriving DecidableEq

namespace PlotOption

def key : PlotOption → PlotKey
  | .outputDirectory _ => .outputDirectory
  | .name _ => .name
  | .title _ => .title
  | .fileName _ => .fileName
  | .size _ => .size
  | .noShow => .noShow
  | .backend _ => .backend

def value : PlotOption → Argument
  | .outputDirectory path => path.bytes
  | .name text => bytes text
  | .title text => bytes text
  | .fileName text => bytes text
  | .size extent => bytes extent.text
  | .noShow => []
  | .backend chosen => bytes chosen.name

def occurrence (option : PlotOption) : Occurrence := ⟨option.key, option.value⟩

def argument (option : PlotOption) : Argument := option.key.argument option.value

def Proper : PlotOption → Prop
  | .outputDirectory path => path.bytes ≠ []
  | .size extent => extent.Visible
  | _ => True

def apply (settings : PlotSettings) : PlotOption → PlotSettings
  | .outputDirectory path => { settings with outputDirectory := some path }
  | .name text => { settings with name := some text }
  | .title text => { settings with title := some text }
  | .fileName text => { settings with fileName := some text }
  | .size extent => { settings with size := some extent }
  | .noShow => { settings with hidden := true }
  | .backend chosen => { settings with backend := some chosen }

theorem has_apply (option : PlotOption) (settings : PlotSettings) (key : PlotKey) :
    (option.apply settings).has key = (decide (key = option.key) || settings.has key) := by
  cases option <;> cases key <;> rfl

theorem apply_comm (settings : PlotSettings) (option other : PlotOption)
    (different : option.key ≠ other.key) :
    apply (apply settings option) other = apply (apply settings other) option := by
  cases option <;> cases other <;> first | rfl | exact absurd rfl different

theorem textOf_bytes (text : String) : textOf (bytes text) = .ok text := by
  rw [textOf, bytes_eq_encode, text?_encode, String.ofList_toList]

theorem sizeOf_text (label : String) {size : ImageSize} (visible : size.Visible) :
    sizeOf label (bytes size.text) = .ok size := by
  rw [sizeOf, textOf_bytes]
  change (ImageSize.ofText size.text).mapError _ = _
  rw [ImageSize.ofText_text visible]
  rfl

theorem once_accept {σ α : Type} {long label : String} {short : Option Char}
    {read : Argument → Except UsageError α} {get : σ → Option α} {set : σ → α → σ} {settings : σ}
    {value : Argument} {result : α} (free : (get settings).isSome = false)
    (taken : read value = .ok result) :
    (once long short label read get set).accept value settings = .ok (set settings result) :=
  PlotKey.once_accept_ok_iff.mpr
    ⟨by simpa using free, result, taken, rfl⟩

theorem takeInto_occurrence {option : PlotOption} {settings : PlotSettings}
    (proper : option.Proper) (free : settings.has option.key = false) :
    option.occurrence.takeInto settings = .ok (option.apply settings) := by
  cases option with
  | outputDirectory path => exact once_accept free (if_neg (mt List.isEmpty_iff.mp proper))
  | name text => exact once_accept free (textOf_bytes text)
  | title text => exact once_accept free (textOf_bytes text)
  | fileName text => exact once_accept free (textOf_bytes text)
  | size extent => exact once_accept free (sizeOf_text sizeLabel proper)
  | noShow => exact if_neg (Bool.eq_false_iff.mp free)
  | backend chosen =>
      refine once_accept free ?_
      cases chosen <;> rfl

theorem takeAll_options {listed : List PlotOption} {settings : PlotSettings}
    (proper : ∀ option ∈ listed, option.Proper) (distinct : (listed.map key).Nodup)
    (free : ∀ option ∈ listed, settings.has option.key = false) :
    takeAll settings (listed.map occurrence) = .ok (listed.foldl apply settings) := by
  induction listed generalizing settings with
  | nil => rfl
  | cons first rest ih =>
      obtain ⟨properFirst, properRest⟩ := List.forall_mem_cons.mp proper
      obtain ⟨freeFirst, freeRest⟩ := List.forall_mem_cons.mp free
      rw [List.map_cons, List.nodup_cons] at distinct
      rw [List.map_cons, takeAll_cons, takeInto_occurrence properFirst freeFirst, List.foldl_cons]
      refine ih properRest distinct.2 fun option member => ?_
      have other : option.key ≠ first.key := by
        intro same
        exact distinct.1 (same ▸ List.mem_map_of_mem member)
      simp [has_apply, other, freeRest option member]

end PlotOption

/-! Whole lines. -/

def given (options : PlotOptions) : List PlotOption :=
  .outputDirectory options.outputDirectory :: (options.name.map .name).toList ++
    (options.title.map .title).toList ++ (options.fileName.map .fileName).toList ++
    (options.size.map .size).toList ++ (if options.presents then [] else [.noShow])

def Lists (options : PlotOptions) (listed : List PlotOption) : Prop :=
  listed.Perm (.backend options.backend :: given options) ∨
    options.backend = .bitmap ∧ listed.Perm (given options)

def verboseFlags (count : Nat) : Argument := bytes "-" ++ List.replicate count 0x76

def plotLine (flags : List Nat) (options : List Argument) (input : Path) : List Argument :=
  flags.map verboseFlags ++ bytes "plot" :: (options ++ [bytes "--", input.bytes])

def counted (seen : Nat) : Progress Nat := ⟨seen, none, false⟩

theorem readLetters_verbose_cons (seen : Nat) (rest : Argument) :
    topGrammar.readLetters (0x76 :: rest) (counted seen) =
      topGrammar.readLetters rest (counted (min (seen + 1) 255)) := rfl

theorem readLetters_verbose (count : Nat) {seen : Nat} (bounded : seen ≤ 255) :
    topGrammar.readLetters (List.replicate count 0x76) (counted seen) =
      .ok (counted (min (seen + count) 255)) := by
  induction count generalizing seen with
  | zero =>
      rw [Nat.add_zero, Nat.min_eq_left bounded]
      rfl
  | succ count ih =>
      rw [List.replicate_succ, readLetters_verbose_cons, ih (Nat.min_le_right _ _)]
      congr 2
      omega

theorem ofArgument_verboseFlags (count : Nat) :
    Token.ofArgument (verboseFlags (count + 1)) = .short (List.replicate (count + 1) 0x76) := rfl

/-- Verbosity flags are counted up to the name of the command. -/
theorem read_flags {flags : List Nat} (positive : ∀ count ∈ flags, 0 < count)
    (rest : List Argument) {seen : Nat} (bounded : seen ≤ 255) :
    topGrammar.read false (flags.map verboseFlags ++ bytes "plot" :: rest) (counted seen) =
      .ok (counted (min (seen + flags.sum) 255), some ⟨bytes "plot", false, rest⟩) := by
  induction flags generalizing seen with
  | nil =>
      rw [List.sum_nil, Nat.add_zero, Nat.min_eq_left bounded]
      rfl
  | cons count others ih =>
      obtain ⟨positiveCount, positiveOthers⟩ := List.forall_mem_cons.mp positive
      obtain ⟨count, rfl⟩ := Nat.exists_eq_add_one.mpr positiveCount
      rw [List.map_cons, List.cons_append, Grammar.read_cons, if_neg Bool.false_ne_true,
        ofArgument_verboseFlags]
      dsimp only
      rw [readLetters_verbose _ bounded]
      change topGrammar.read false _ (counted _) = _
      rw [ih positiveOthers (Nat.min_le_right _ _), List.sum_cons]
      congr 3
      omega

theorem readCommand_plot (arguments : List Argument) :
    readCommand (bytes "plot") arguments = readPlot arguments := by
  have name : text? (bytes "plot") = some "plot" := by
    rw [bytes_eq_encode, text?_encode, String.ofList_toList]
  rw [readCommand, name]
  rfl

theorem read_plotLine {flags : List Nat} (positive : ∀ count ∈ flags, 0 < count)
    (options : List Argument) (input : Path) :
    read (plotLine flags options input) =
      (readPlot (options ++ [bytes "--", input.bytes])).map (⟨min flags.sum 255, ·⟩) := by
  have reads := read_flags positive (options ++ [bytes "--", input.bytes]) (Nat.zero_le 255)
  rw [Nat.zero_add] at reads
  change (topGrammar.read false (plotLine flags options input) (counted 0) >>= _) = _
  rw [plotLine, reads]
  change (readCommand (bytes "plot") _ >>= _) = _
  rw [readCommand_plot]
  cases readPlot (options ++ [bytes "--", input.bytes]) <;> rfl

theorem readPlot_occurrences (occurrences : List Occurrence) (input : Path) :
    readPlot (occurrences.map Occurrence.argument ++ [bytes "--", input.bytes]) =
      takeAll {} occurrences >>= fun settings =>
        inputOperand.accept input.bytes settings >>= fun settings =>
          settings.options.map .plot := by
  rw [readPlot, readAll_plot, bind_assoc]
  refine bind_congr_of_ok fun settings _ => bind_congr_of_ok fun settings _ => ?_
  cases settings.options <;> rfl

def settled (options : PlotOptions) (backend : Option Backend) : PlotSettings where
  outputDirectory := some options.outputDirectory
  name := options.name
  title := options.title
  fileName := options.fileName
  size := options.size
  hidden := !options.presents
  backend

theorem foldl_given (options : PlotOptions) (backend : Option Backend) :
    (given options).foldl PlotOption.apply { backend } = settled options backend := by
  obtain ⟨input, outputDirectory, name, title, fileName, size, presents, chosen⟩ := options
  cases name <;> cases title <;> cases fileName <;> cases size <;> cases presents <;> rfl

theorem keys_given (options : PlotOptions) : ((given options).map PlotOption.key).Sublist
    [.outputDirectory, .name, .title, .fileName, .size, .noShow] := by
  have shown : ((if options.presents then [] else [PlotOption.noShow]).map PlotOption.key).Sublist
      [.noShow] := by
    split
    · exact List.nil_sublist _
    · exact List.Sublist.refl _
  simp only [given, List.map_append, List.map_cons]
  exact (((((List.Sublist.refl [PlotKey.outputDirectory]).append
    (Keyed.keys_toList PlotOption.name (fun _ => rfl) options.name)).append
    (Keyed.keys_toList PlotOption.title (fun _ => rfl) options.title)).append
    (Keyed.keys_toList PlotOption.fileName (fun _ => rfl) options.fileName)).append
    (Keyed.keys_toList PlotOption.size (fun _ => rfl) options.size)).append shown

theorem nodup_given (options : PlotOptions) :
    ((.backend options.backend :: given options).map PlotOption.key).Nodup := by
  have all : [PlotKey.backend, .outputDirectory, .name, .title, .fileName, .size,
      .noShow].Nodup := by
    decide
  exact all.sublist ((keys_given options).cons_cons _)

variable {options : PlotOptions} {listed : List PlotOption}

theorem proper_of_mem (directory : options.outputDirectory.bytes ≠ [])
    (visible : ∀ size, options.size = some size → size.Visible) :
    ∀ option ∈ PlotOption.backend options.backend :: given options, option.Proper := by
  intro option member
  cases option with
  | outputDirectory path =>
      have same : path = options.outputDirectory := by simpa [given] using member
      exact same ▸ directory
  | size extent =>
      have same : options.size = some extent := by simpa [given] using member
      exact visible extent same
  | name text => trivial
  | title text => trivial
  | fileName text => trivial
  | noShow => trivial
  | backend chosen => trivial

theorem Lists.perm (lists : Lists options listed) :
    ∃ shown, listed.Perm shown ∧ shown.Sublist (.backend options.backend :: given options) ∧
      ∃ backend, backend.getD .bitmap = options.backend ∧
        shown.foldl PlotOption.apply {} = settled options backend := by
  rcases lists with permuted | ⟨standard, permuted⟩
  · exact ⟨_, permuted, List.Sublist.refl _, some options.backend, rfl,
      foldl_given options (some options.backend)⟩
  · exact ⟨_, permuted, List.sublist_cons_self _ _, none, standard.symm, foldl_given options none⟩

theorem options_settled {backend : Option Backend} (same : backend.getD .bitmap = options.backend) :
    { settled options backend with input := some options.input }.options = .ok options := by
  obtain ⟨input, outputDirectory, name, title, fileName, size, presents, chosen⟩ := options
  obtain rfl : backend.getD .bitmap = chosen := same
  cases presents <;> rfl

theorem map_argument (listed : List PlotOption) :
    listed.map PlotOption.argument =
      (listed.map PlotOption.occurrence).map Occurrence.argument := by
  rw [List.map_map]
  rfl

theorem readPlot_options (readable : options.input.bytes ≠ [])
    (directory : options.outputDirectory.bytes ≠ [])
    (visible : ∀ size, options.size = some size → size.Visible) (lists : Lists options listed) :
    readPlot (listed.map PlotOption.argument ++ [bytes "--", options.input.bytes]) =
      .ok (.plot options) := by
  obtain ⟨shown, permuted, part, backend, same, leads⟩ := lists.perm
  have distinct : (listed.map PlotOption.key).Nodup :=
    (permuted.map PlotOption.key).nodup_iff.mpr
      ((nodup_given options).sublist (part.map PlotOption.key))
  have taken : takeAll {} (listed.map PlotOption.occurrence) = .ok (settled options backend) := by
    rw [PlotOption.takeAll_options
      (fun option member =>
        proper_of_mem directory visible option (part.subset (permuted.subset member)))
      distinct (fun option _ => by cases option <;> rfl),
      Keyed.foldl_eq_of_perm permuted distinct PlotOption.apply_comm, leads]
  have accepted : inputOperand.accept options.input.bytes (settled options backend) =
      .ok { settled options backend with input := some options.input } :=
    PlotOption.once_accept rfl (if_neg (mt List.isEmpty_iff.mp readable))
  rw [map_argument, readPlot_occurrences, taken]
  change (inputOperand.accept _ _ >>= _) = _
  rw [accepted]
  exact congrArg (·.map Command.plot) (options_settled same)

theorem readPlot_repeated {option : PlotOption} {before after : List PlotOption}
    (member : option ∈ before ++ after) (value : Argument) (input : Path) :
    ∃ cause, readPlot (before.map PlotOption.argument ++
      option.key.argument value :: after.map PlotOption.argument ++
        [bytes "--", input.bytes]) = .error cause := by
  let occurrences := before.map PlotOption.occurrence ++
    ⟨option.key, value⟩ :: after.map PlotOption.occurrence
  have repeated : ¬(occurrences.map Occurrence.key).Nodup := by
    have keys : (occurrences.map Occurrence.key).Perm
        (option.key :: (before ++ after).map PlotOption.key) := by
      simp only [occurrences, List.map_append, List.map_cons, List.map_map]
      exact List.perm_middle
    rw [keys.nodup_iff, List.nodup_cons]
    exact fun distinct => distinct.1 (List.mem_map_of_mem member)
  obtain ⟨cause, refused⟩ := takeAll_error_of_repeated repeated {}
  have arguments : before.map PlotOption.argument ++
      option.key.argument value :: after.map PlotOption.argument =
        occurrences.map Occurrence.argument := by
    rw [map_argument, map_argument, List.map_append, List.map_cons]
    rfl
  refine ⟨cause, ?_⟩
  rw [arguments, readPlot_occurrences, refused]
  rfl

/-- A plot command is read as it is meant, whatever the order of its options and the grouping of
the verbosity flags before it, and no option of it can be repeated. -/
theorem plot_arguments_read {flags : List Nat}
    (positive : ∀ count ∈ flags, 0 < count) (readable : options.input.bytes ≠ [])
    (directory : options.outputDirectory.bytes ≠ [])
    (visible : ∀ size, options.size = some size → size.Visible) (lists : Lists options listed) :
    read (plotLine flags (listed.map PlotOption.argument) options.input) =
        .ok ⟨min flags.sum 255, .plot options⟩ ∧
      ∀ option ∈ listed, ∀ value before after, listed = before ++ after →
        ∃ cause, read (plotLine flags (before.map PlotOption.argument ++
          option.key.argument value :: after.map PlotOption.argument) options.input) =
            .error cause := by
  constructor
  · rw [read_plotLine positive, readPlot_options readable directory visible lists]
    rfl
  · rintro option member value before after rfl
    obtain ⟨cause, refused⟩ := readPlot_repeated member value options.input
    refine ⟨cause, ?_⟩
    rw [read_plotLine positive, refused]
    rfl

theorem hyphenated_arguments_read :
    let options : PlotOptions :=
      ⟨⟨[0x2D, 0xFF]⟩, ⟨bytes "-o"⟩, some "--title=x y", some "", none, some ⟨1, 4294967295⟩, false,
        .matplotlib⟩
    let listed := [bytes "--no-show", bytes "--size=1x4294967295", bytes "--title=",
      bytes "--backend=matplotlib", bytes "--name=--title=x y", bytes "--output-dir=-o"]
    let line (arguments : List Argument) :=
      [bytes "-vv", bytes "-v", bytes "plot"] ++ arguments ++ [bytes "--", [0x2D, 0xFF]]
    read (line listed) = .ok ⟨3, .plot options⟩ ∧
      ∃ cause, read (line (bytes "--size=1x1" :: listed)) = .error cause := by
  intro options listed line
  let chosen := [PlotOption.noShow, .size ⟨1, 4294967295⟩, .title "", .backend .matplotlib,
    .name "--title=x y", .outputDirectory ⟨bytes "-o"⟩]
  have lists : Lists options chosen := .inl (by decide)
  have visible : ∀ size, options.size = some size → size.Visible := by
    rintro _ ⟨⟩
    decide
  obtain ⟨reads, refuses⟩ := plot_arguments_read (by decide : ∀ count ∈ [2, 1], 0 < count)
    (by decide) (by decide) visible lists
  exact ⟨reads, refuses (.size ⟨1, 4294967295⟩) (by decide) (bytes "1x1") [] chosen rfl⟩

end Throughput.CommandLine
