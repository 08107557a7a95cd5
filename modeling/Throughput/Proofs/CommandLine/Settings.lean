import Throughput.CommandLine.Basic
import Throughput.Proofs.Result

/-!
What all settings have in common that a grammar reads. A property that holds at the start and that
every parameter keeps holds at the end, whatever the arguments are.

Values are taken in late, so a progress is sound when its settings have the property and the
parameter that is still pending keeps it.
-/

namespace Throughput

variable {σ : Type} {property : σ → Prop}

def Parameter.Keeps (property : σ → Prop) (parameter : Parameter σ) : Prop :=
  ∀ value settings after, parameter.accept value settings = .ok after →
    property settings → property after

structure Grammar.Keeps (property : σ → Prop) (grammar : Grammar σ) : Prop where
  options : ∀ parameter ∈ grammar.options, parameter.Keeps property
  operand : ∀ parameter, grammar.operand = some parameter → parameter.Keeps property

structure Progress.Sound (property : σ → Prop) (progress : Progress σ) : Prop where
  settings : property progress.settings
  pending : ∀ parameter value, progress.pending = some (parameter, value) →
    parameter.Keeps property

namespace Progress

variable {progress after : Progress σ} {parameter : Parameter σ}

theorem sound_start {settings : σ} (initial : property settings) :
    (start settings).Sound property :=
  ⟨initial, nofun⟩

theorem Sound.wait (sound : progress.Sound property) (keeps : parameter.Keeps property)
    (value : Option Argument) (hasOperand : Bool) :
    (Progress.mk progress.settings (some (parameter, value)) hasOperand).Sound property := by
  refine ⟨sound.settings, ?_⟩
  rintro _ _ ⟨⟩
  exact keeps

theorem Sound.settle (sound : progress.Sound property) (settled : progress.settle = .ok after) :
    after.Sound property := by
  unfold Progress.settle at settled
  split at settled
  next => exact Except.ok.inj settled ▸ sound
  next => cases settled
  next parameter value waiting =>
      obtain ⟨settings, accepted, ⟨⟩⟩ := bind_eq_ok_iff.mp settled
      exact ⟨sound.pending _ _ waiting _ _ _ accepted sound.settings, nofun⟩

theorem Sound.meet {value : Option Argument} (sound : progress.Sound property)
    (keeps : parameter.Keeps property) (met : progress.meet parameter value = .ok after) :
    after.Sound property := by
  unfold Progress.meet at met
  split at met
  next => cases met
  next =>
      obtain ⟨settled, settles, ⟨⟩⟩ := bind_eq_ok_iff.mp met
      exact (sound.settle settles).wait keeps none _
  next =>
      obtain ⟨settled, settles, taken⟩ := bind_eq_ok_iff.mp met
      obtain ⟨settings, accepted, ⟨⟩⟩ := bind_eq_ok_iff.mp taken
      have earlier := sound.settle settles
      exact ⟨keeps _ _ _ accepted earlier.settings, earlier.pending⟩

end Progress

namespace Grammar

variable {grammar : Grammar σ} {progress after : Progress σ}

theorem Keeps.ofLong {name : Argument} {parameter : Parameter σ} (keeps : grammar.Keeps property)
    (known : grammar.ofLong? name = some parameter) : parameter.Keeps property :=
  keeps.options parameter (List.mem_of_find?_eq_some known)

theorem Keeps.ofShort {letter : UInt8} {parameter : Parameter σ} (keeps : grammar.Keeps property)
    (known : grammar.ofShort? letter = some parameter) : parameter.Keeps property :=
  keeps.options parameter (List.mem_of_find?_eq_some known)

theorem readLetters_sound (keeps : grammar.Keeps property) {letters : Argument} :
    ∀ {progress : Progress σ}, progress.Sound property →
      grammar.readLetters letters progress = .ok after → after.Sound property := by
  induction letters with
  | nil =>
      intro progress sound taken
      cases taken
      exact sound
  | cons letter rest ih =>
      intro progress sound taken
      unfold readLetters at taken
      split at taken
      next => cases taken
      next parameter known =>
          split at taken
          next => exact sound.meet (keeps.ofShort known) taken
          next =>
              obtain ⟨met, meets, later⟩ := bind_eq_ok_iff.mp taken
              exact ih (sound.meet (keeps.ofShort known) meets) later

theorem pending_of_waiting {parameter : Parameter σ}
    (waiting : waiting? progress = some parameter) :
    progress.pending = some (parameter, none) := by
  unfold waiting? at waiting
  split at waiting
  next waits => exact Option.some.inj waiting ▸ waits
  next => cases waiting

def placeOperand (grammar : Grammar σ) (escaped : Bool) (argument : Argument)
    (rest : List Argument) (progress : Progress σ) :
    Except UsageError (Progress σ × Option Remainder) :=
  match grammar.operand with
  | some operand =>
    if progress.hasOperand then .ok (progress, some ⟨argument, escaped, rest⟩)
    else do
      let progress ← progress.settle
      grammar.read escaped rest
        { progress with pending := some (operand, some argument), hasOperand := true }
  | none => .ok (progress, some ⟨argument, escaped, rest⟩)

theorem read_cons (escaped : Bool) (argument : Argument) (rest : List Argument)
    (progress : Progress σ) : grammar.read escaped (argument :: rest) progress =
      if escaped then grammar.placeOperand escaped argument rest progress
      else
        match Token.ofArgument argument with
        | .escape => grammar.read true rest progress
        | .long name value =>
          match grammar.ofLong? name with
          | some parameter => do grammar.read false rest (← progress.meet parameter value)
          | none => .error (.unknownArgument ("--" ++ Utf8.lossy name))
        | .short letters => do grammar.read false rest (← grammar.readLetters letters progress)
        | .plain =>
          match waiting? progress with
          | some parameter =>
            grammar.read false rest { progress with pending := some (parameter, some argument) }
          | none => grammar.placeOperand escaped argument rest progress :=
  rfl

theorem placeOperand_sound (keeps : grammar.Keeps property) {escaped : Bool} {argument : Argument}
    {rest : List Argument} {remainder : Option Remainder}
    (later : ∀ {escaped : Bool} {progress : Progress σ}, progress.Sound property →
      grammar.read escaped rest progress = .ok (after, remainder) → after.Sound property)
    (sound : progress.Sound property)
    (placed : grammar.placeOperand escaped argument rest progress = .ok (after, remainder)) :
    after.Sound property := by
  unfold placeOperand at placed
  split at placed
  next operand known =>
      split at placed
      next =>
          cases placed
          exact sound
      next =>
          obtain ⟨settled, settles, read⟩ := bind_eq_ok_iff.mp placed
          exact later ((sound.settle settles).wait (keeps.operand operand known) _ true) read
  next =>
      cases placed
      exact sound

theorem read_sound (keeps : grammar.Keeps property) {arguments : List Argument}
    {remainder : Option Remainder} :
    ∀ {escaped : Bool} {progress : Progress σ}, progress.Sound property →
      grammar.read escaped arguments progress = .ok (after, remainder) → after.Sound property := by
  induction arguments with
  | nil =>
      intro escaped progress sound taken
      cases taken
      exact sound
  | cons argument rest ih =>
      intro escaped progress sound taken
      rw [read_cons] at taken
      split at taken
      next => exact placeOperand_sound keeps ih sound taken
      next =>
          split at taken
          next => exact ih sound taken
          next =>
              split at taken
              next parameter known =>
                  obtain ⟨met, meets, later⟩ := bind_eq_ok_iff.mp taken
                  exact ih (sound.meet (keeps.ofLong known) meets) later
              next => cases taken
          next =>
              obtain ⟨met, meets, later⟩ := bind_eq_ok_iff.mp taken
              exact ih (readLetters_sound keeps sound meets) later
          next =>
              split at taken
              next parameter waiting =>
                  have kept := sound.pending _ _ (pending_of_waiting waiting)
                  exact ih (sound.wait kept _ _) taken
              next => exact placeOperand_sound keeps ih sound taken

/-- A property of settings that every parameter keeps outlasts the reading of any arguments. -/
theorem readAll_keeps {settings result : σ} {arguments : List Argument}
    (keeps : grammar.Keeps property) (initial : property settings)
    (taken : grammar.readAll settings arguments = .ok result) : property result := by
  obtain ⟨⟨progress, remainder⟩, reads, later⟩ := bind_eq_ok_iff.mp taken
  have sound := read_sound keeps (Progress.sound_start initial) reads
  cases remainder with
  | some => cases later
  | none =>
      obtain ⟨settled, settles, ⟨⟩⟩ := bind_eq_ok_iff.mp later
      exact (sound.settle settles).settings

end Grammar

namespace CommandLine

variable {α : Type} {long label : String} {short : Option Char}
  {read : Argument → Except UsageError α} {get : σ → Option α} {set : σ → α → σ}

theorem once_keeps
    (kept : ∀ value settings result, read value = .ok result → property settings →
      property (set settings result)) :
    (once long short label read get set).Keeps property := by
  intro value settings after accepted holds
  simp only [once] at accepted
  split at accepted
  next => cases accepted
  next =>
      cases taken : read value with
      | error => simp [taken, Except.map] at accepted
      | ok result =>
          simp only [taken, Except.map, Except.ok.injEq] at accepted
          exact accepted ▸ kept value settings result taken holds

theorem help_keeps : (help : Parameter σ).Keeps property := nofun

variable {arguments : List Argument} {options : PlotOptions}

theorem readPlot_of_readCommand {name : Argument}
    (read : readCommand name arguments = .ok (.plot options)) :
    readPlot arguments = .ok (.plot options) := by
  unfold readCommand at read
  split at read
  next => exact read
  next =>
      obtain ⟨settings, -, read⟩ := bind_eq_ok_iff.mp read
      obtain ⟨config, -, ⟨⟩⟩ := bind_eq_ok_iff.mp read
  next =>
      obtain ⟨settings, -, read⟩ := bind_eq_ok_iff.mp read
      obtain ⟨file, -, ⟨⟩⟩ := bind_eq_ok_iff.mp read
  next => cases read
  next => cases read

theorem readCommand_of_read {line : CommandLine} (read : CommandLine.read arguments = .ok line) :
    ∃ name rest, readCommand name rest = .ok line.command := by
  obtain ⟨⟨progress, remainder⟩, -, read⟩ := bind_eq_ok_iff.mp read
  cases remainder with
  | none =>
      obtain ⟨settled, -, read⟩ := bind_eq_ok_iff.mp read
      cases read
  | some remainder =>
      obtain ⟨settled, -, read⟩ := bind_eq_ok_iff.mp read
      split at read
      next => cases read
      next =>
          obtain ⟨command, taken, ⟨⟩⟩ := bind_eq_ok_iff.mp read
          exact ⟨remainder.argument, remainder.rest, taken⟩

end CommandLine

end Throughput
