import Throughput.Pattern.Groups
import Throughput.Pattern.Repetition

/-! Reading a whole pattern. Groups that have not been closed are kept on a stack, with what stands
before them. -/

namespace Throughput.Pattern

structure Branches where
  start : Position
  finished : List Tree
  branchStart : Position
  /-- Parts of the current branch, last one first. -/
  items : List Tree

namespace Branches

def ofStart (start : Position) : Branches := ⟨start, [], start, []⟩

def branch (branches : Branches) (stop : Position) : Tree :=
  .ofItems ⟨branches.branchStart, stop⟩ branches.items.reverse

def tree (branches : Branches) (stop : Position) : Tree :=
  if branches.finished.isEmpty then branches.branch stop
  else .alternation ⟨branches.start, stop⟩ (branches.finished ++ [branches.branch stop])

def divide (branches : Branches) (stop next : Position) : Branches :=
  { branches with
    finished := branches.finished ++ [branches.branch stop], branchStart := next, items := [] }

def push (branches : Branches) (item : Tree) : Branches :=
  { branches with items := item :: branches.items }

end Branches

structure OpenGroup where
  outer : Branches
  span : Span
  changes : FlagChanges
  captures : Bool
  outerSpaced : Bool

structure Progress where
  branches : Branches
  groups : List OpenGroup

namespace Reader

def setSpaced (spaced : Bool) : Reader Unit := modify fun cursor => { cursor with spaced }

def openGroup (progress : Progress) : Reader Progress := do
  match ← groupOpening with
  | .directive changes flags =>
    match changes.state? .spaced with
    | some spaced => setSpaced spaced
    | none => pure ()
    return { progress with branches := progress.branches.push flags }
  | .group span changes captures =>
    let outerSpaced := (← get).spaced
    setSpaced ((changes.state? .spaced).getD outerSpaced)
    return ⟨.ofStart (← position),
      ⟨progress.branches, span, changes, captures, outerSpaced⟩ :: progress.groups⟩

def closeGroup (progress : Progress) : Reader Progress := do
  match progress.groups with
  | [] => fail .groupUnopened (← characterSpan)
  | group :: groups =>
    setSpaced group.outerSpaced
    let body := progress.branches.tree (← position)
    advance
    let span ← spanFrom group.span.start
    return ⟨group.outer.push (.group span group.changes group.captures body), groups⟩

def primitive (character : Char) : Reader Tree := do
  if character = '\\' then escape
  else
    let span ← characterSpan
    advance
    match character with
    | '.' => return .dot span
    | '^' => return .assertion span .lineStart
    | '$' => return .assertion span .lineEnd
    | _ => return .literal ⟨span, character, false⟩

def onItems (progress : Progress) (change : List Tree → Reader (List Tree)) : Reader Progress :=
  return { progress with
    branches := { progress.branches with items := ← change progress.branches.items } }

def step (progress : Progress) : Reader (Option Progress) := do
  skipBlanks
  match ← current? with
  | none => return none
  | some '(' => return some (← openGroup progress)
  | some ')' => return some (← closeGroup progress)
  | some '|' =>
    let stop ← position
    advance
    return some { progress with branches := progress.branches.divide stop (← position) }
  | some '[' => return some (← onItems progress fun items => return (← brackets) :: items)
  | some '?' => return some (← onItems progress (shortRepetition (0, some 1)))
  | some '*' => return some (← onItems progress (shortRepetition (0, none)))
  | some '+' => return some (← onItems progress (shortRepetition (1, none)))
  | some '\x7b' => return some (← onItems progress countedRepetition)
  | some character =>
    return some (← onItems progress fun items => return (← primitive character) :: items)

def whole : Reader Tree := do
  let progress ← loop ⟨.ofStart (← position), []⟩ step
  match progress.groups with
  | group :: _ => fail .groupUnclosed group.span
  | [] => return progress.branches.tree (← position)

end Reader

def Tree.ofText (text : String) : Except Fault Tree := Reader.whole.run' (.ofText text)

end Throughput.Pattern
