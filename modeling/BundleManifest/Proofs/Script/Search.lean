import BundleManifest.Proofs.Script.Address
import Mathlib.Logic.Function.Iterate

/-!
# The search of a tree, turn by turn

`Node.outermost` searches the trees of a stack and does not look below a node where it found
something. Here its loop is taken apart: a `Search` is the stack together with what was found so far,
and `Search.turn` is one turn of the loop, which takes the node on top of the stack.

A node is *exposed* to the search if nothing is found above it (`Node.exposed`). What is still to be
taken are the exposed nodes of the stack (`Node.pending`), and every turn takes the first of them.

* `pending_cons`: below a node where something is found nothing is pending, and below any other node
  all its parts are;
* `Search.head?_stack_iterate`: the `k`-th turn takes the `k`-th exposed node;
* `Search.iterate_length`: after as many turns as there are exposed nodes, the stack is empty, and
  what was found is what `Node.outermost` returns;
* `outermost_eq`: it is what the test finds at the exposed nodes, in their order.
-/

namespace BundleManifest.Script

namespace Node

/-- The loop that visits every node does so in preorder. -/
theorem visit_eq (stack : List Node) : visit stack = preorderAll stack := by
  induction stack using visit.induct with
  | case1 => rw [visit, preorderAll]
  | case2 n stack ih => rw [visit, ih, preorderAll_append, preorderAll, preorder_eq, List.cons_append]

theorem visit_singleton (n : Node) : visit [n] = n.preorder := by
  rw [visit_eq, preorderAll_singleton]

variable {α : Type} (find? : Node → Option α)

/-! ## Exposed nodes -/

/-- Whether a test finds nothing above an address. -/
def isExposed (n : Node) (a : Address) : Bool :=
  (n.ancestors a).all fun m => (find? m).isNone

/-- The nodes of a tree above which a test finds nothing, with their addresses, in preorder. -/
def exposed (n : Node) : List (Address × Node) :=
  n.located.filter fun p => n.isExposed find? p.1

/-- The exposed nodes of the trees of a stack. -/
def pending (stack : List Node) : List Node :=
  stack.flatMap fun n => (n.exposed find?).map Prod.snd

variable {find?} {n m c : Node} {a : Address} {i : Nat}

theorem isExposed_cons (h : n.children[i]? = some c) :
    n.isExposed find? (i :: a) = ((find? n).isNone && c.isExposed find? a) := by
  rw [isExposed, ancestors_cons h, List.all_cons, isExposed]

/-- The exposed nodes are those where nothing is found at any address before theirs. -/
theorem mem_exposed : (a, m) ∈ n.exposed find? ↔
    n.at? a = some m ∧ ∀ b c, b <+: a → b ≠ a → n.at? b = some c → find? c = none := by
  rw [exposed, List.mem_filter, mem_located, isExposed, List.all_eq_true]
  refine and_congr_right fun _ => ⟨fun h b c hb hne hc => ?_, fun h c hc => ?_⟩
  · exact Option.isNone_iff_eq_none.1 (h c (mem_ancestors.2 ⟨b, hb, hne, hc⟩))
  · obtain ⟨b, hb, hne, hc⟩ := mem_ancestors.1 hc
    exact Option.isNone_iff_eq_none.2 (h b c hb hne hc)

/-- A part of an exposed node is exposed exactly when nothing is found at the node. -/
theorem part_mem_exposed (h : (a, n) ∈ m.exposed find?) (hc : n.children[i]? = some c) :
    (a ++ [i], c) ∈ m.exposed find? ↔ find? n = none := by
  obtain ⟨hat, hclear⟩ := mem_exposed.1 h
  have hpart : m.at? (a ++ [i]) = some c := by
    rw [at?_append, hat, Option.bind_some, at?_cons]
    exact ⟨c, hc, rfl⟩
  rw [mem_exposed]
  constructor
  · rintro ⟨-, hpart⟩
    exact hpart a n (List.prefix_append _ _) (by simp) hat
  · -- The addresses before that of the part are those before that of the node, and the node's own.
    intro hn
    refine ⟨hpart, fun b d hb hne hd => ?_⟩
    rcases List.prefix_concat_iff.1 hb with rfl | hb
    · exact absurd rfl hne
    · by_cases hba : b = a
      · rw [hba, hat] at hd
        rwa [← Option.some.inj hd]
      · exact hclear b d hb hba hd

/-- Below a node where something is found, no node is exposed. -/
theorem exposed_of_some {x : α} (h : find? n = some x) : n.exposed find? = [([], n)] := by
  have hnone : (locatedAll 0 n.children).filter (fun p => n.isExposed find? p.1) = [] := by
    rw [List.filter_eq_nil_iff]
    rintro ⟨a, m⟩ hm
    obtain ⟨j, b, c, rfl, hc, -⟩ := mem_locatedAll.1 hm
    rw [Nat.zero_add, isExposed_cons hc, h]
    simp
  rw [exposed, located_eq, List.filter_cons_of_pos rfl, hnone]

/-- Below a node where nothing is found, a node is exposed if it is exposed in its part. -/
theorem filter_locatedAll (h : find? n = none) {l : List Node} (hl : n.children.drop i = l) :
    ((locatedAll i l).filter fun p => n.isExposed find? p.1).map Prod.snd = pending find? l := by
  induction l generalizing i with
  | nil => rfl
  | cons c l ih =>
    have hc : n.children[i]? = some c := by rw [← List.head?_drop, hl]; rfl
    have hrest : n.children.drop (i + 1) = l := by rw [← List.tail_drop, hl]; rfl
    -- The node at which nothing is found is the only ancestor that its part does not have.
    have hpart : (fun p => n.isExposed find? p.1) ∘ (fun p : Address × Node => (i :: p.1, p.2)) =
        fun p => c.isExposed find? p.1 := by
      funext p
      rw [Function.comp_apply, isExposed_cons hc, h]
      rfl
    rw [locatedAll, List.filter_append, List.filter_map, hpart, List.map_append, ih hrest,
      List.map_map]
    rfl

theorem pending_append (s t : List Node) :
    pending find? (s ++ t) = pending find? s ++ pending find? t :=
  List.flatMap_append

/-- A node where something is found is taken alone. -/
theorem pending_cons_of_some {x : α} (h : find? n = some x) (stack : List Node) :
    pending find? (n :: stack) = n :: pending find? stack := by
  rw [pending, List.flatMap_cons, exposed_of_some h]
  rfl

/-- After a node where nothing is found come its parts. -/
theorem pending_cons_of_none (h : find? n = none) (stack : List Node) :
    pending find? (n :: stack) = n :: pending find? (n.children ++ stack) := by
  rw [pending, List.flatMap_cons, exposed, located_eq, List.filter_cons_of_pos rfl, List.map_cons,
    filter_locatedAll h (List.drop_zero), pending_append]
  rfl

/-- A pending node is a node of one of the trees. -/
theorem mem_visit_of_mem_pending {stack : List Node} (h : m ∈ pending find? stack) :
    m ∈ visit stack := by
  rw [visit_eq]
  induction stack with
  | nil => exact h
  | cons n stack ih =>
    rw [preorderAll, List.mem_append]
    rcases List.mem_append.1 h with hn | hrest
    · obtain ⟨p, hp, rfl⟩ := List.mem_map.1 hn
      rw [← map_snd_located]
      exact .inl (List.mem_map_of_mem (List.mem_filter.1 hp).1)
    · exact .inr (ih hrest)

/-- The search returns what the test finds at the exposed nodes. -/
theorem outermost_eq (stack : List Node) :
    outermost find? stack = (pending find? stack).filterMap find? := by
  induction stack using outermost.induct find? with
  | case1 => rw [outermost]; rfl
  | case2 n stack x h ih =>
    rw [outermost, pending_cons_of_some h, List.filterMap_cons_some h, h, ih]
  | case3 n stack h ih =>
    rw [outermost, pending_cons_of_none h, List.filterMap_cons_none h, h, ih]

end Node

/-! ## Turns of the loop -/

/-- A search that is under way: the trees that are still to be searched, the next one on top, and what
    was found so far. -/
structure Search (α : Type) where
  /-- The trees that are still to be searched. -/
  stack : List Node
  /-- What was found so far, in order. -/
  found : List α := []

namespace Search

open Node

variable {α : Type} {find? : Node → Option α}

/-- One turn of the loop: the node on top of the stack is kept if something is found there, and else
    replaced by its parts. With an empty stack nothing changes. -/
def turn (find? : Node → Option α) (s : Search α) : Search α :=
  match s.stack with
  | [] => s
  | n :: stack =>
    match find? n with
    | some x => ⟨stack, s.found ++ [x]⟩
    | none => ⟨n.children ++ stack, s.found⟩

/-- A node where something is found is kept, and its parts are not looked at. -/
theorem turn_of_some {n : Node} {x : α} (h : find? n = some x) (stack : List Node)
    (found : List α) : turn find? ⟨n :: stack, found⟩ = ⟨stack, found ++ [x]⟩ := by
  simp only [turn, h]

/-- A node where nothing is found makes room for its parts. -/
theorem turn_of_none {n : Node} (h : find? n = none) (stack : List Node) (found : List α) :
    turn find? ⟨n :: stack, found⟩ = ⟨n.children ++ stack, found⟩ := by
  simp only [turn, h]

variable (find?)

/-- Every turn takes the first of the pending nodes. -/
theorem pending_turn (s : Search α) :
    pending find? (s.turn find?).stack = (pending find? s.stack).tail := by
  obtain ⟨_ | ⟨n, stack⟩, found⟩ := s
  · rfl
  cases h : find? n with
  | some x => rw [turn_of_some h, pending_cons_of_some h, List.tail_cons]
  | none => rw [turn_of_none h, pending_cons_of_none h, List.tail_cons]

/-- What a search has found, and will find, does not change with a turn. -/
theorem found_turn (s : Search α) :
    (s.turn find?).found ++ outermost find? (s.turn find?).stack =
      s.found ++ outermost find? s.stack := by
  obtain ⟨_ | ⟨n, stack⟩, found⟩ := s
  · rfl
  simp only [outermost_eq]
  cases h : find? n with
  | some x =>
    rw [turn_of_some h, pending_cons_of_some h, List.filterMap_cons_some h, List.append_assoc]
    rfl
  | none => rw [turn_of_none h, pending_cons_of_none h, List.filterMap_cons_none h]

/-- After so many turns, so many exposed nodes are no longer pending. -/
theorem pending_iterate (s : Search α) (k : Nat) :
    pending find? ((turn find?)^[k] s).stack = (pending find? s.stack).drop k := by
  induction k with
  | zero => rfl
  | succ k ih => rw [Function.iterate_succ_apply', pending_turn, ih, List.tail_drop]

/-- What was found and what is still to be found are the same together after every turn. -/
theorem found_iterate (s : Search α) (k : Nat) :
    ((turn find?)^[k] s).found ++ outermost find? ((turn find?)^[k] s).stack =
      s.found ++ outermost find? s.stack := by
  induction k with
  | zero => rfl
  | succ k ih => rw [Function.iterate_succ_apply', found_turn, ih]

/-- The node on top of a stack is the first of the pending ones. -/
theorem head?_stack (stack : List Node) : stack.head? = (pending find? stack).head? := by
  cases stack with
  | nil => rfl
  | cons n stack =>
    cases h : find? n with
    | some x => rw [pending_cons_of_some h]; rfl
    | none => rw [pending_cons_of_none h]; rfl

/-- The `k`-th turn takes the `k`-th of the nodes that were pending at first. -/
theorem head?_stack_iterate (s : Search α) (k : Nat) :
    ((turn find?)^[k] s).stack.head? = (pending find? s.stack)[k]? := by
  rw [head?_stack find?, pending_iterate, List.head?_drop]

/-- The search ends after as many turns as there are pending nodes, and has found what
    `Node.outermost` returns. -/
theorem iterate_length (s : Search α) :
    (turn find?)^[(pending find? s.stack).length] s = ⟨[], s.found ++ outermost find? s.stack⟩ := by
  -- No pending node is left, so the stack has no top; and what was found is all that will be.
  have hstack : ((turn find?)^[(pending find? s.stack).length] s).stack = [] := by
    rw [← List.head?_eq_none_iff, head?_stack_iterate, List.getElem?_eq_none (Nat.le_refl _)]
  have hfound := found_iterate find? s (pending find? s.stack).length
  rw [hstack, outermost, List.append_nil] at hfound
  rw [← hfound, ← hstack]

end Search

end BundleManifest.Script
