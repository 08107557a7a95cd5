import Throughput.Commands.Plot
import Throughput.Proofs.Batch.Jobs
import Throughput.Proofs.Chart.Size
import Throughput.Proofs.CommandLine.Settings

/-!
The sizes of the images that the two front ends ask for. A size on the command line has an extent
in both directions. A configuration is decoded without this check, so its jobs have such sizes
exactly when its charts were given no others.
-/

namespace Throughput

def VisibleIfGiven (given : Option ImageSize) : Prop := ∀ size, given = some size → size.Visible

theorem ChartJob.size_visible_iff {job : ChartJob} :
    job.chartSpec.size.Visible ↔ VisibleIfGiven job.size := by
  rw [chartSpec, ChartSpec.ofTitle]
  cases job.size with
  | none => exact ⟨fun _ => nofun, fun _ => ImageSize.visible_standard⟩
  | some size =>
      refine ⟨?_, fun visible => visible size rfl⟩
      rintro visible _ ⟨⟩
      exact visible

namespace CommandLine

theorem visible_of_sizeOf {label : String} {value : Argument} {size : ImageSize}
    (read : sizeOf label value = .ok size) : size.Visible := by
  obtain ⟨text, -, read⟩ := bind_eq_ok_iff.mp read
  exact ImageSize.visible_of_ofText (mapError_eq_ok_iff.mp read)

def PlotSettings.SizeVisible (settings : PlotSettings) : Prop := VisibleIfGiven settings.size

theorem hidden_keeps_visible : hidden.Keeps PlotSettings.SizeVisible := by
  intro value settings after accepted visible
  simp only [hidden] at accepted
  split at accepted
  next => cases accepted
  next =>
      cases accepted
      exact visible

theorem plotGrammar_keeps_visible : plotGrammar.Keeps PlotSettings.SizeVisible := by
  constructor
  · simp only [plotGrammar, List.forall_mem_cons]
    refine ⟨?outputDirectory, ?name, ?title, ?fileName, ?size, hidden_keeps_visible, ?backend,
      help_keeps, nofun⟩
    case size =>
        refine once_keeps fun value settings result taken visible => ?_
        rintro _ ⟨⟩
        exact visible_of_sizeOf taken
    all_goals exact once_keeps fun _ _ _ _ visible => visible
  · rintro _ ⟨⟩
    exact once_keeps fun _ _ _ _ visible => visible

variable {arguments : List Argument} {options : PlotOptions}

theorem size_of_options {settings : PlotSettings} (complete : settings.options = .ok options) :
    options.size = settings.size := by
  obtain ⟨input, -, complete⟩ := bind_eq_ok_iff.mp complete
  obtain ⟨outputDirectory, -, ⟨⟩⟩ := bind_eq_ok_iff.mp complete
  rfl

theorem visible_of_readPlot (read : readPlot arguments = .ok (.plot options)) :
    VisibleIfGiven options.size := by
  obtain ⟨settings, taken, read⟩ := bind_eq_ok_iff.mp read
  obtain ⟨_, complete, ⟨⟩⟩ := bind_eq_ok_iff.mp read
  have initial : PlotSettings.SizeVisible {} := nofun
  have visible : settings.SizeVisible :=
    Grammar.readAll_keeps plotGrammar_keeps_visible initial taken
  rw [size_of_options complete]
  exact visible

theorem visible_of_read {line : CommandLine} (read : CommandLine.read arguments = .ok line)
    (plots : line.command = .plot options) : VisibleIfGiven options.size := by
  obtain ⟨name, rest, taken⟩ := readCommand_of_read read
  rw [plots] at taken
  exact visible_of_readPlot (readPlot_of_readCommand taken)

end CommandLine

theorem ChartEntry.sizes_visible_iff {charts : List ChartEntry} {jobs : List ChartJob}
    (described : List.Forall₂ Describes charts jobs) :
    (∀ job ∈ jobs, job.chartSpec.size.Visible) ↔
      ∀ chart ∈ charts, VisibleIfGiven chart.size := by
  induction described with
  | nil => exact ⟨nofun, nofun⟩
  | cons describes _ ih =>
      rw [List.forall_mem_cons, List.forall_mem_cons, ih, ChartJob.size_visible_iff, describes.size]

/-- A plot never asks for an image without pixels, and a configuration does exactly when one of
its charts says so. -/
theorem image_sizes_visible (arguments : List Argument) (text : String) :
    (∀ line options name, CommandLine.read arguments = .ok line → line.command = .plot options →
      options.chartName? = some name → (options.job name).chartSpec.size.Visible) ∧
    ∀ config jobs, Config.parse text = .ok config → config.jobs = .ok jobs →
      ((∀ job ∈ jobs, job.chartSpec.size.Visible) ↔
        ∀ chart ∈ config.charts, ∀ size, chart.size = some size → size.Visible) := by
  refine ⟨fun line options name read plots _ => ?_, fun config jobs _ resolved => ?_⟩
  · exact ChartJob.size_visible_iff.mpr (CommandLine.visible_of_read read plots)
  · exact ChartEntry.sizes_visible_iff (Config.placed_and_described resolved).2

def smallestArguments : List Argument :=
  ["plot", "a.json", "-o", "export", "--size", "1x1"].map Utf8.bytes

def smallestOptions : PlotOptions :=
  { input := .ofText "a.json", outputDirectory := .ofText "export", name := none, title := none,
    fileName := none, size := some ⟨1, 1⟩, presents := true, backend := .bitmap }

def smallestText : String :=
  "[[chart]]\nname = \"a\"\ninput = \"a.json\"\noutput_dir = \"export\"\nsize = [1, 1]\n"

def smallestConfig : Config :=
  ⟨ChartDefaults.none,
    [⟨"a", .ofText "a.json", some (.ofText "export"), none, none, some ⟨1, 1⟩, none⟩]⟩

theorem smallest_images_visible :
    CommandLine.read smallestArguments = .ok ⟨0, .plot smallestOptions⟩ ∧
      (smallestOptions.job "a").chartSpec.size.Visible ∧
      Config.parse smallestText = .ok smallestConfig ∧
      ∀ job ∈ [smallestOptions.job "a"], job.chartSpec.size.Visible := by
  have read : CommandLine.read smallestArguments = .ok ⟨0, .plot smallestOptions⟩ :=
    toOption_eq_some_iff.mp (by decide +kernel)
  have parsed : Config.parse smallestText = .ok smallestConfig :=
    toOption_eq_some_iff.mp (by decide +kernel)
  have resolved : smallestConfig.jobs = .ok [smallestOptions.job "a"] := rfl
  have sizes : ∀ chart ∈ smallestConfig.charts, ∀ size, chart.size = some size →
      size.Visible := by
    simp only [smallestConfig, List.forall_mem_singleton]
    rintro _ ⟨⟩
    decide
  obtain ⟨plots, charts⟩ := image_sizes_visible smallestArguments smallestText
  exact ⟨read, plots _ _ _ read rfl (by decide +kernel), parsed,
    (charts _ _ parsed resolved).mpr sizes⟩

def flatText : String :=
  "[[chart]]\nname = \"flat\"\ninput = \"flat.json\"\noutput_dir = \"export\"\nsize = [0, 600]\n"

def flatConfig : Config :=
  ⟨ChartDefaults.none,
    [⟨"flat", .ofText "flat.json", some (.ofText "export"), none, none, some ⟨0, 600⟩, none⟩]⟩

def flatJob : ChartJob :=
  { ChartJob.ofName "flat" (.ofText "flat.json") (.ofText "export") with size := some ⟨0, 600⟩ }

/-- A configuration is accepted and asks for an image without pixels. -/
theorem configured_size_can_be_zero :
    Config.parse flatText = .ok flatConfig ∧ flatConfig.jobs = .ok [flatJob] ∧
      ¬flatJob.chartSpec.size.Visible :=
  ⟨toOption_eq_some_iff.mp (by decide +kernel), rfl, by decide⟩

end Throughput
