import BundleManifest.Script.Node

/-!
# Visiting a tree with a stack

The nodes of a tree can be visited without recursion: take a node from a stack, and put its parts in
its place. Both loops here work on a stack of trees that are still to be visited, the leftmost on top.

* `Node.visit` yields every node it takes;
* `Node.outermost` yields what a test finds, and does not look below a node where it found something.
-/

namespace BundleManifest.Script.Node

/-- The nodes that the loop takes from a stack, in the order in which it takes them. -/
def visit : List Node → List Node
  | [] => []
  | n :: stack => n :: visit (n.children ++ stack)
  termination_by stack => sizeAll stack
  decreasing_by simp [sizeAll, size_eq]

/-- What a test finds in the trees of a stack, without looking below a node where it finds
    something. -/
def outermost {α : Type} (find? : Node → Option α) : List Node → List α
  | [] => []
  | n :: stack =>
    match find? n with
    | some a => a :: outermost find? stack
    | none => outermost find? (n.children ++ stack)
  termination_by stack => sizeAll stack
  decreasing_by
  · simp [sizeAll, size_eq]
  · simp [sizeAll, size_eq]

end BundleManifest.Script.Node
