import Throughput.Proofs.FileTree.Change
import Throughput.Render.Bitmap

/-!
What renderers do to a file tree: how little of it they may change, and what they may make of the
part that they change. The bitmap renderer keeps to the strictest of these rules.
-/

namespace Throughput

namespace FileTree

def access (tree : FileTree) (path : Path) : Except SystemError Unit :=
  (tree.destination path).map fun _ => ()

/-- The tree after a content has been written to a path, if there is one and as far as it can be
written. -/
def leave (tree : FileTree) (path : Path) : Option Content → FileTree
  | none => tree
  | some content => (tree.write path content).toOption.getD tree

section Leaving

variable {tree later : FileTree} {path : Path} {location : Location} {cause : SystemError}

theorem leave_of_destination (written : tree.destination path = .ok location)
    (content : Content) : tree.leave path (some content) = tree.put location (.file content) := by
  unfold leave write
  rw [written]
  rfl

theorem leave_of_error (refused : tree.destination path = .error cause) (left : Option Content) :
    tree.leave path left = tree := by
  cases left with
  | none => rfl
  | some content =>
      unfold leave write
      rw [refused]
      rfl

theorem writes_leave (tree : FileTree) (path : Path) (left : Option Content) :
    tree.Writes path (tree.leave path left) := by
  cases left with
  | none => exact .of_alike (.refl tree)
  | some content =>
      cases written : tree.destination path with
      | error cause =>
          rw [leave_of_error written]
          exact .of_alike (.refl tree)
      | ok location =>
          rw [leave_of_destination written]
          exact writes_put written content

theorem lookup?_leave (written : tree.destination path = .ok location) (left : Option Content) :
    (tree.leave path left).lookup? location =
      left.elim (tree.lookup? location) fun content => some (.file content) := by
  cases left with
  | none => rfl
  | some content =>
      rw [leave_of_destination written]
      exact lookup?_put_self (destination_ne_root written)

theorem Alike.access {other : FileTree} (alike : tree.Alike other) (path : Path) :
    tree.access path = other.access path := by
  unfold FileTree.access
  rw [alike.destination]

theorem Writes.access (writes : tree.Writes path later) : later.access path = tree.access path := by
  cases written : tree.destination path with
  | error cause => exact (writes.alike_of_error written).access path
  | ok location =>
      unfold FileTree.access
      rw [writes.destination written, written]

/-- To write the same once more changes nothing. -/
theorem leave_again {left : Option Content} (alike : later.Alike (tree.leave path left)) :
    (later.leave path left).Alike later := by
  have writes : tree.Writes path later :=
    (writes_leave tree path left).trans (.of_alike alike)
  cases written : tree.destination path with
  | error cause =>
      rw [leave_of_error]
      · exact .refl later
      · rw [(writes.alike_of_error written).destination, written]
  | ok location =>
      have still := writes.destination written
      refine ⟨(writes_leave later path left).workingDirectory, fun other => ?_⟩
      by_cases same : other = location
      · subst same
        rw [lookup?_leave still]
        have held := alike.entries other
        rw [lookup?_leave written] at held
        cases left with
        | none => rfl
        | some content => exact held.symm
      · exact (writes_leave later path left).entries_of_ne still same

end Leaving

end FileTree

namespace Renderer

structure Confined (renderer : Renderer) : Prop where
  renders : ∀ x y chart output (tree : FileTree),
    tree.Writes output (renderer.render x y chart output tree).tree
  presents : ∀ output (tree : FileTree), tree.Writes output (renderer.present output tree).tree

/-- The renderer writes its output file only. What it writes is decided by what it is given and by
whether the file can be written. -/
structure Steady (renderer : Renderer) : Prop where
  leaves : ∀ x y chart output, ∃ left : Except SystemError Unit → Option Content, ∀ tree,
    (renderer.render x y chart output tree).tree.Alike
      (tree.leave output (left (tree.access output)))
  presents : ∀ output tree, (renderer.present output tree).tree.Alike tree

structure Repeatable (renderer : Renderer) : Prop extends Steady renderer where
  succeeds : ∀ x y chart output (tree other : FileTree), tree.access output = other.access output →
    (renderer.render x y chart output tree).result = .ok () →
    (renderer.render x y chart output other).result = .ok ()

structure Predictable (renderer : Renderer) : Prop extends Steady renderer where
  result : ∀ x y chart output (tree other : FileTree), tree.access output = other.access output →
    (renderer.render x y chart output tree).result = (renderer.render x y chart output other).result

theorem Steady.confined {renderer : Renderer} (steady : renderer.Steady) : renderer.Confined := by
  constructor
  case renders =>
    intro x y chart output tree
    obtain ⟨left, leaves⟩ := steady.leaves x y chart output
    exact (FileTree.writes_leave ..).trans (.of_alike (leaves tree))
  case presents => exact fun output tree => .of_alike (steady.presents output tree)

theorem Predictable.repeatable {renderer : Renderer} (predictable : renderer.Predictable) :
    renderer.Repeatable :=
  ⟨predictable.toSteady, fun x y chart output tree other same done =>
    (predictable.result x y chart output tree other same).symm.trans done⟩

end Renderer

namespace Bitmap

def written (drawing : Drawing) (output : Path) : Option Content :=
  (FileFormat.ofPath? output).map fun format => (encode format drawing).1

def saved (drawing : Drawing) (output : Path) (access : Except SystemError Unit) :
    Except EncodeError Unit :=
  match FileFormat.ofPath? output with
  | none => .error (.unknownFormat output.extension?)
  | some format => do
    access.mapError EncodeError.system
    (encode format drawing).2

theorem save_eq (drawing : Drawing) (output : Path) (tree : FileTree) :
    save drawing output tree =
      (saved drawing output (tree.access output), tree.leave output (written drawing output)) := by
  unfold save saved written
  cases FileFormat.ofPath? output with
  | none => rfl
  | some format =>
      unfold FileTree.access
      cases reached : tree.destination output with
      | error cause =>
          rw [FileTree.leave_of_error reached]
          rfl
      | ok location =>
          simp only [Option.map_some, FileTree.leave_of_destination reached]
          rfl

end Bitmap

theorem Renderer.predictable_bitmap : Renderer.bitmap.Predictable := by
  constructor
  case toSteady =>
    constructor
    case leaves =>
      intro x y chart output
      refine ⟨fun _ => Bitmap.written (Drawing.ofSeries x y chart) output, fun tree => ?_⟩
      simp only [Renderer.bitmap, Bitmap.render, Bitmap.save_eq]
      exact .refl _
    case presents => exact fun _ tree => .refl tree
  case result =>
    intro x y chart output tree other same
    simp only [Renderer.bitmap, Bitmap.render, Bitmap.save_eq, same]

end Throughput
