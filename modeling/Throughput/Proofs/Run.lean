import Throughput.Run

/-!
What computations do to a machine. They do not look at the journal that they find, and they put
their own events behind it, so the file tree alone decides how a computation ends.
-/

namespace Throughput

namespace Event

def step? : Event → Option Step
  | .step taken => some taken
  | _ => none

def text? : Event → Option String
  | .output written => some written
  | _ => none

end Event

namespace Machine

theorem steps_eq_filterMap (machine : Machine) :
    machine.steps = machine.journal.filterMap Event.step? := rfl

def texts (machine : Machine) : List String := machine.journal.filterMap Event.text?

theorem output_eq_join (machine : Machine) : machine.output = String.join machine.texts := rfl

end Machine

def Logged (events : List Event) : Prop := ∀ event ∈ events, ∃ record, event = .record record

theorem Logged.nil : Logged [] := by simp [Logged]

theorem Logged.cons (record : LogRecord) {events : List Event} (logged : Logged events) :
    Logged (.record record :: events) := by
  intro event member
  rcases List.mem_cons.mp member with first | later
  · exact ⟨record, first⟩
  · exact logged event later

theorem Logged.append {first rest : List Event} (firstLogged : Logged first)
    (restLogged : Logged rest) : Logged (first ++ rest) := by
  intro event member
  rcases List.mem_append.mp member with inFirst | inRest
  · exact firstLogged event inFirst
  · exact restLogged event inRest

theorem logged_map_record (records : List LogRecord) : Logged (records.map .record) := by
  simp [Logged]

theorem Logged.steps {events : List Event} (logged : Logged events) :
    events.filterMap Event.step? = [] := by
  rw [List.filterMap_eq_nil_iff]
  intro event member
  obtain ⟨record, rfl⟩ := logged event member
  rfl

theorem Logged.texts {events : List Event} (logged : Logged events) :
    events.filterMap Event.text? = [] := by
  rw [List.filterMap_eq_nil_iff]
  intro event member
  obtain ⟨record, rfl⟩ := logged event member
  rfl

structure Reports (events : List Event) (steps : List Step) (texts : List String) : Prop where
  steps : events.filterMap Event.step? = steps
  texts : events.filterMap Event.text? = texts

theorem Logged.reports {events : List Event} (logged : Logged events) : Reports events [] [] :=
  ⟨logged.steps, logged.texts⟩

theorem reports_step (step : Step) : Reports [.step step] [step] [] := ⟨rfl, rfl⟩

theorem reports_output (text : String) : Reports [.output text] [] [text] := ⟨rfl, rfl⟩

theorem Reports.append {first rest : List Event} {firstSteps restSteps : List Step}
    {firstTexts restTexts : List String} (firstReports : Reports first firstSteps firstTexts)
    (restReports : Reports rest restSteps restTexts) :
    Reports (first ++ rest) (firstSteps ++ restSteps) (firstTexts ++ restTexts) := by
  constructor
  · rw [List.filterMap_append, firstReports.steps, restReports.steps]
  · rw [List.filterMap_append, firstReports.texts, restReports.texts]

namespace Run

variable {ε δ α β : Type} {tree middle finish : FileTree} {events more : List Event}

def resultOn (computation : Run ε α) (tree : FileTree) : Except ε α :=
  (computation.on (.ofTree tree)).1

def treeAfter (computation : Run ε α) (tree : FileTree) : FileTree :=
  (computation.on (.ofTree tree)).2.tree

structure Leads (computation : Run ε α) (tree : FileTree) (result : Except ε α)
    (finish : FileTree) (events : List Event) : Prop where
  ran : ∀ journal, computation.on ⟨tree, journal⟩ = (result, ⟨finish, journal ++ events⟩)

theorem Leads.on {computation : Run ε α} {machine : Machine} {result : Except ε α}
    (leads : Leads computation machine.tree result finish events) :
    computation.on machine = (result, ⟨finish, machine.journal ++ events⟩) :=
  leads.ran machine.journal

theorem Leads.resultOn {computation : Run ε α} {result : Except ε α}
    (leads : Leads computation tree result finish events) : computation.resultOn tree = result :=
  congrArg Prod.fst (leads.ran [])

theorem Leads.treeAfter {computation : Run ε α} {result : Except ε α}
    (leads : Leads computation tree result finish events) : computation.treeAfter tree = finish :=
  congrArg (fun after => after.2.tree) (leads.ran [])

theorem leads_pure (value : α) : Leads (pure value : Run ε α) tree (.ok value) tree [] := by
  refine ⟨fun journal => ?_⟩
  rw [List.append_nil]
  rfl

theorem leads_throw (error : ε) : Leads (throw error : Run ε α) tree (.error error) tree [] := by
  refine ⟨fun journal => ?_⟩
  rw [List.append_nil]
  rfl

theorem leads_tree : Leads (Run.tree : Run ε FileTree) tree (.ok tree) tree [] := by
  refine ⟨fun journal => ?_⟩
  rw [List.append_nil]
  rfl

theorem leads_setTree (next : FileTree) : Leads (setTree next : Run ε Unit) tree (.ok ()) next [] := by
  refine ⟨fun journal => ?_⟩
  rw [List.append_nil]
  rfl

theorem leads_note (event : Event) : Leads (note event : Run ε Unit) tree (.ok ()) tree [event] :=
  ⟨fun _ => rfl⟩

theorem leads_log (level : LogLevel) (source : LogSource) (message : String) :
    Leads (log level source message : Run ε Unit) tree (.ok ()) tree
      [.record ⟨level, source, message⟩] :=
  leads_note _

theorem leads_step (step : Step) :
    Leads (Run.step step : Run ε Unit) tree (.ok ()) tree [.step step] :=
  leads_note _

theorem leads_writeLine (text : String) :
    Leads (writeLine text : Run ε Unit) tree (.ok ()) tree [.output (text ++ "\n")] :=
  leads_note _

theorem leads_lift_ok {context : δ → ε} {result : Except δ α} {value : α}
    (given : result = .ok value) : Leads (lift context result) tree (.ok value) tree [] := by
  rw [given]
  exact leads_pure value

theorem leads_lift_error {context : δ → ε} {result : Except δ α} {error : δ}
    (given : result = .error error) :
    Leads (lift context result) tree (.error (context error)) tree [] := by
  rw [given]
  exact leads_throw (context error)

theorem on_bind (computation : Run ε α) (next : α → Run ε β) (machine : Machine) :
    (computation >>= next).on machine =
      match computation.on machine with
      | (.ok value, after) => (next value).on after
      | (.error error, after) => (.error error, after) := by
  change (match computation.on machine with
    | (result, after) => (ExceptT.bindCont next result : StateM Machine _) after) = _
  rcases computation.on machine with ⟨_ | _, after⟩ <;> rfl

/-- A computation succeeds only when its first part does, and the rest behind it. -/
theorem exists_on_of_bind_ok {computation : Run ε α} {next : α → Run ε β}
    {machine after : Machine} {result : β}
    (ran : (computation >>= next).on machine = (.ok result, after)) :
    ∃ value between, computation.on machine = (.ok value, between) ∧
      (next value).on between = (.ok result, after) := by
  rw [on_bind] at ran
  rcases first : computation.on machine with ⟨_ | value, between⟩
  · rw [first] at ran
    cases ran
  · rw [first] at ran
    exact ⟨value, between, rfl, ran⟩

theorem eq_ok_of_lift_ok {context : δ → ε} {result : Except δ α} {value : α}
    {machine after : Machine} (ran : (lift context result).on machine = (.ok value, after)) :
    result = .ok value := by
  cases result with
  | error => cases ran
  | ok =>
      cases ran
      rfl

theorem Leads.bind {computation : Run ε α} {next : α → Run ε β} {value : α} {result : Except ε β}
    (first : Leads computation tree (.ok value) middle events)
    (rest : Leads (next value) middle result finish more) :
    Leads (computation >>= next) tree result finish (events ++ more) := by
  refine ⟨fun journal => ?_⟩
  rw [on_bind, first.ran journal, ← List.append_assoc]
  exact rest.ran (journal ++ events)

theorem Leads.bind_error {computation : Run ε α} {next : α → Run ε β} {error : ε}
    (first : Leads computation tree (.error error) finish events) :
    Leads (computation >>= next) tree (.error error) finish events := by
  refine ⟨fun journal => ?_⟩
  rw [on_bind, first.ran journal]

theorem Leads.within {context : δ → ε} {computation : Run δ α} {result : Except δ α}
    (leads : Leads computation tree result finish events) :
    Leads (Run.within context computation) tree (result.mapError context) finish events := by
  refine ⟨fun journal => ?_⟩
  have ran : computation ⟨tree, journal⟩ = (result, ⟨finish, journal ++ events⟩) := leads.ran journal
  unfold Run.on Run.within
  rw [ran]
  cases result <;> rfl

theorem Leads.attempt {computation : Run δ α} {result : Except δ α}
    (leads : Leads computation tree result finish events) :
    Leads (Run.attempt computation : Run ε (Except δ α)) tree (.ok result) finish events := by
  refine ⟨fun journal => ?_⟩
  have ran : computation ⟨tree, journal⟩ = (result, ⟨finish, journal ++ events⟩) := leads.ran journal
  unfold Run.on Run.attempt
  rw [ran]

theorem leads_records (records : List LogRecord) :
    Leads (records.forM fun record => note (.record record) : Run ε Unit) tree (.ok ()) tree
      (records.map .record) := by
  induction records with
  | nil => exact leads_pure ()
  | cons record rest ih => exact (leads_note (.record record)).bind ih

def Takes (computation : Run ε α) (tree : FileTree) (result : Except ε α) (finish : FileTree)
    (steps : List Step) (texts : List String) : Prop :=
  ∃ events, Reports events steps texts ∧ Leads computation tree result finish events

section Takes

variable {steps moreSteps : List Step} {texts moreTexts : List String}

theorem Leads.takes {computation : Run ε α} {result : Except ε α}
    (leads : Leads computation tree result finish events) (reports : Reports events steps texts) :
    Takes computation tree result finish steps texts :=
  ⟨events, reports, leads⟩

theorem takes_pure (value : α) : Takes (pure value : Run ε α) tree (.ok value) tree [] [] :=
  (leads_pure value).takes Logged.nil.reports

theorem takes_log (level : LogLevel) (source : LogSource) (message : String) :
    Takes (log level source message : Run ε Unit) tree (.ok ()) tree [] [] :=
  (leads_log level source message).takes (Logged.cons _ .nil).reports

theorem takes_writeLine (text : String) :
    Takes (writeLine text : Run ε Unit) tree (.ok ()) tree [] [text ++ "\n"] :=
  (leads_writeLine text).takes (reports_output _)

theorem takes_lift_ok {context : δ → ε} {result : Except δ α} {value : α}
    (given : result = .ok value) : Takes (lift context result) tree (.ok value) tree [] [] :=
  (leads_lift_ok given).takes Logged.nil.reports

theorem Takes.bind {computation : Run ε α} {next : α → Run ε β} {value : α} {result : Except ε β}
    (first : Takes computation tree (.ok value) middle steps texts)
    (rest : Takes (next value) middle result finish moreSteps moreTexts) :
    Takes (computation >>= next) tree result finish (steps ++ moreSteps) (texts ++ moreTexts) := by
  obtain ⟨events, reports, leads⟩ := first
  obtain ⟨more, moreReports, moreLeads⟩ := rest
  exact ⟨events ++ more, reports.append moreReports, leads.bind moreLeads⟩

theorem Takes.bind_error {computation : Run ε α} {next : α → Run ε β} {error : ε}
    (first : Takes computation tree (.error error) finish steps texts) :
    Takes (computation >>= next) tree (.error error) finish steps texts := by
  obtain ⟨events, reports, leads⟩ := first
  exact ⟨events, reports, leads.bind_error⟩

theorem Takes.within {context : δ → ε} {computation : Run δ α} {result : Except δ α}
    (takes : Takes computation tree result finish steps texts) :
    Takes (Run.within context computation) tree (result.mapError context) finish steps texts := by
  obtain ⟨events, reports, leads⟩ := takes
  exact ⟨events, reports, leads.within⟩

theorem Takes.exists_on {computation : Run ε α} {machine : Machine} {result : Except ε α}
    (takes : Takes computation machine.tree result finish steps texts) :
    ∃ after, computation.on machine = (result, after) ∧ after.tree = finish ∧
      after.steps = machine.steps ++ steps ∧ after.texts = machine.texts ++ texts := by
  obtain ⟨events, reports, leads⟩ := takes
  refine ⟨_, leads.on, rfl, ?_, ?_⟩
  · rw [Machine.steps_eq_filterMap, List.filterMap_append, reports.steps]
    rfl
  · rw [Machine.texts, List.filterMap_append, reports.texts]
    rfl

end Takes

end Run

end Throughput
