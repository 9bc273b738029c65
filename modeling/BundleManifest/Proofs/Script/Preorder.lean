import BundleManifest.Proofs.Script.Fault

/-!
# The visit of a tree, turn by turn

`Node.visit` visits the nodes of the trees of a stack. Here its loop is taken apart: a `Visit` is the
stack together with the nodes that were taken from it so far, and `Visit.turn` is one turn of the
loop, which takes the node on top of the stack and puts the parts of the node in its place.

A turn may make the stack higher. What it makes smaller are the trees on the stack together: the nodes
that are still to be taken are those of all of them, in preorder, and every turn takes the first of
these.

* `preorderAll_iterate`, `taken_iterate`: what is still to be taken, and what was taken, after some
  turns;
* `stack_iterate_eq_nil_iff`: the stack is empty after as many turns as its trees have nodes, and not
  before;
* `visit_preorder`: so the visit of a tree takes all nodes in preorder, and in a tree with nested
  spans no node begins to the left of one that was taken before it.
-/

namespace BundleManifest.Script

namespace Node

variable {l : List Node}

mutual

theorem length_preorder : ∀ n : Node, n.preorder.length = n.size
  | ⟨_, _, _, _, _, _, _, children⟩ => by
    rw [preorder, List.length_cons, length_preorderAll children, size]

theorem length_preorderAll : ∀ l : List Node, (preorderAll l).length = sizeAll l
  | [] => rfl
  | n :: rest => by
    rw [preorderAll, List.length_append, length_preorder n, length_preorderAll rest, sizeAll]

end

theorem preorderAll_eq_flatMap (l : List Node) : preorderAll l = l.flatMap preorder := by
  induction l with
  | nil => rfl
  | cons n l ih => rw [preorderAll, ih, List.flatMap_cons]

theorem preorderAll_eq_nil_iff : preorderAll l = [] ↔ l = [] := by
  cases l with
  | nil => exact iff_of_true rfl rfl
  | cons n l => simp [preorderAll, preorder_eq]

/-- The nodes of the trees of a stack are the one on top, and then those of its parts and of the other
    trees. -/
theorem preorderAll_cons (n : Node) (l : List Node) :
    preorderAll (n :: l) = n :: preorderAll (n.children ++ l) := by
  rw [preorderAll, preorder_eq, List.cons_append, preorderAll_append]

end Node

/-- A visit that is under way. -/
structure Visit where
  /-- The trees that are still to be visited, the next one on top. -/
  stack : List Node
  /-- The nodes that were taken so far, in order. -/
  taken : List Node := []

namespace Visit

open Node

/-- One turn of the loop: the node on top of the stack is taken, and its parts are put in its place.
    With an empty stack nothing changes. -/
def turn (v : Visit) : Visit :=
  match v.stack with
  | [] => v
  | n :: stack => ⟨n.children ++ stack, v.taken ++ [n]⟩

variable (v : Visit)

/-- A turn takes the first of the nodes that are still to be taken. -/
theorem turn_preorderAll : preorderAll v.turn.stack = (preorderAll v.stack).tail ∧
    v.turn.taken = v.taken ++ (preorderAll v.stack).take 1 := by
  obtain ⟨_ | ⟨n, stack⟩, taken⟩ := v
  · exact ⟨rfl, (List.append_nil _).symm⟩
  · rw [preorderAll_cons]
    exact ⟨rfl, rfl⟩

/-- After so many turns, so many nodes are gone from what is still to be taken. -/
theorem preorderAll_iterate (k : Nat) :
    preorderAll (turn^[k] v).stack = (preorderAll v.stack).drop k := by
  induction k with
  | zero => rfl
  | succ k ih => rw [Function.iterate_succ_apply', (turn_preorderAll _).1, ih, List.tail_drop]

/-- After so many turns, so many nodes of the preorder have been taken. -/
theorem taken_iterate (k : Nat) : (turn^[k] v).taken = v.taken ++ (preorderAll v.stack).take k := by
  induction k with
  | zero => rw [List.take_zero, List.append_nil, Function.iterate_zero_apply]
  | succ k ih =>
    rw [Function.iterate_succ_apply', (turn_preorderAll _).2, preorderAll_iterate, ih,
      List.append_assoc, ← List.take_add]

/-- The loop ends after as many turns as the trees of the stack have nodes, and not before. -/
theorem stack_iterate_eq_nil_iff (k : Nat) : (turn^[k] v).stack = [] ↔ sizeAll v.stack ≤ k := by
  rw [← preorderAll_eq_nil_iff, preorderAll_iterate, List.drop_eq_nil_iff, length_preorderAll]

/-- What the loop has taken when it ends is what `Node.visit` yields. -/
theorem iterate_sizeAll : turn^[sizeAll v.stack] v = ⟨[], v.taken ++ Node.visit v.stack⟩ := by
  have hstack := (stack_iterate_eq_nil_iff v _).2 (Nat.le_refl (sizeAll v.stack))
  have htaken := taken_iterate v (sizeAll v.stack)
  rw [← length_preorderAll, List.take_length, length_preorderAll, ← visit_eq] at htaken
  rw [← hstack, ← htaken]

/-- The visit of a tree takes its nodes in preorder: a node, and then those of its parts from left to
    right. The loop ends after exactly as many turns as the tree has nodes, and every turn until then
    takes the next node. If the spans of the tree are nested, no node begins to the left of one that
    was taken before it. -/
theorem visit_preorder (root : Node) :
    root.preorder = root :: root.children.flatMap preorder ∧ root.preorder.length = root.size ∧
      (∀ k, (turn^[k] ⟨[root], []⟩).stack = [] ↔ root.size ≤ k) ∧
      (∀ k, (turn^[k] ⟨[root], []⟩).taken = root.preorder.take k) ∧
      turn^[root.size] ⟨[root], []⟩ = ⟨[], Node.visit [root]⟩ ∧ Node.visit [root] = root.preorder ∧
      (root.Nested → (Node.visit [root]).Pairwise fun m n => m.start ≤ n.start) := by
  have hsize : sizeAll [root] = root.size := by rw [sizeAll, sizeAll, Nat.add_zero]
  refine ⟨?_, length_preorder root, fun k => ?_, fun k => ?_, ?_, visit_singleton root,
    fun hnested => ?_⟩
  · rw [preorder_eq, preorderAll_eq_flatMap]
  · rw [stack_iterate_eq_nil_iff, hsize]
  · rw [taken_iterate, preorderAll_singleton, List.nil_append]
  · rw [← hsize]
    exact iterate_sizeAll ⟨[root], []⟩
  · rw [visit_singleton]
    exact hnested.pairwise_start

/-- A call with an empty list of arguments, between two other nodes. -/
theorem visit_preorder_of_call :
    let leaf (symbol : String) (start stop : Nat) : Node :=
      { symbol, start, stop, point := ⟨0, start⟩ }
    let arguments : Node := { leaf "arguments" 1 3 with children := [leaf "(" 1 2, leaf ")" 2 3] }
    let call : Node :=
      { leaf "call_expression" 0 3 with children := [leaf "identifier" 0 1, arguments] }
    let root : Node :=
      { leaf "program" 0 9 with children := [call, leaf ";" 3 4, leaf "comment" 4 9] }
    root.Nested ∧ (turn^[7] ⟨[root], []⟩).stack ≠ [] ∧ (turn^[8] ⟨[root], []⟩).stack = [] ∧
      (Node.visit [root]).map Node.symbol =
        ["program", "call_expression", "identifier", "arguments", "(", ")", ";", "comment"] ∧
      (Node.visit [root]).Pairwise fun m n => m.start ≤ n.start := by
  intro leaf arguments call root
  obtain ⟨-, -, hstack, -, -, hvisit, hordered⟩ := visit_preorder root
  have hnested : root.Nested := by decide
  have hsize : root.size = 8 := by decide
  refine ⟨hnested, fun h => ?_, (hstack 8).2 (by rw [hsize]), ?_, hordered hnested⟩
  · have := (hstack 7).1 h
    omega
  · rw [hvisit]
    decide

end Visit

end BundleManifest.Script
