import BundleManifest.Proofs.Script.Search
import Mathlib.Algebra.BigOperators.Ring.Finset

/-!
# Nested spans

In a tree that was read from a script, the parts of a node stand side by side inside its span
(`Node.Nested`). The nodes that a search has found, followed by the trees that it still has to search,
then are a *row*: they stand side by side as well, from left to right (`Row`). A turn of the search
keeps the row (`Search.row_turn`), since it replaces a node by its parts, or keeps it and moves on.

* `Row.sum_span_le`: nodes side by side are together at most as long as the room they stand in;
* `Search.row_found`: what a search of a tree with nested spans finds is a row inside the span of the
  tree.
-/

namespace BundleManifest.Script

namespace Node

/-- Spans are nested: the parts of a node stand inside its span, none begins before the one to its
    left ends, and the same holds of the parts. -/
inductive Nested : Node → Prop
  | intro {n : Node} : n.start ≤ n.stop → (∀ c ∈ n.children, n.start ≤ c.start ∧ c.stop ≤ n.stop) →
      n.children.Pairwise (fun c d => c.stop ≤ d.start) → (∀ c ∈ n.children, Nested c) → Nested n

end Node

/-- Nodes with nested spans stand side by side between two offsets. -/
structure Row (start stop : Nat) (nodes : List Node) : Prop where
  nested : ∀ n ∈ nodes, n.Nested
  inside : ∀ n ∈ nodes, start ≤ n.start ∧ n.stop ≤ stop
  ordered : nodes.Pairwise fun m n => m.stop ≤ n.start

theorem Node.Nested.start_le_stop {n : Node} (h : n.Nested) : n.start ≤ n.stop := by
  cases h with
  | intro hle _ _ _ => exact hle

/-- The parts of a node stand side by side inside its span. -/
theorem Node.Nested.row {n : Node} (h : n.Nested) : Row n.start n.stop n.children := by
  cases h with
  | intro _ hinside hordered hparts => exact ⟨hparts, hinside, hordered⟩

/-- The spans of every part of a tree with nested spans are nested. -/
theorem Node.Nested.of_mem_preorder {root n : Node} (h : root.Nested) (hn : n ∈ root.preorder) :
    n.Nested := by
  induction h with
  | @intro root hle hinside hordered hparts ih =>
    rw [preorder_eq, List.mem_cons, mem_preorderAll_iff] at hn
    rcases hn with rfl | ⟨c, hc, hn⟩
    · exact .intro hle hinside hordered hparts
    · exact ih c hc hn

/-! ## Rows -/

namespace Row

variable {start stop : Nat} {n : Node} {l r : List Node}

theorem singleton (h : n.Nested) : Row n.start n.stop [n] := by
  refine ⟨fun m hm => ?_, fun m hm => ?_, List.pairwise_singleton _ _⟩
  · rwa [List.mem_singleton.1 hm]
  · rw [List.mem_singleton.1 hm]
    exact ⟨Nat.le_refl _, Nat.le_refl _⟩

theorem sublist (h : Row start stop r) (hl : l.Sublist r) : Row start stop l :=
  ⟨fun n hn => h.nested n (hl.subset hn), fun n hn => h.inside n (hl.subset hn), h.ordered.sublist hl⟩

/-- The nodes to the right of the first one stand behind its end. -/
theorem tail (h : Row start stop (n :: l)) : Row n.stop stop l := by
  have hord := List.pairwise_cons.1 h.ordered
  exact ⟨fun m hm => h.nested m (List.mem_cons_of_mem _ hm),
    fun m hm => ⟨hord.1 m hm, (h.inside m (List.mem_cons_of_mem _ hm)).2⟩, hord.2⟩

/-- A row is a first node and a row behind its end. -/
theorem cons_iff : Row start stop (n :: l) ↔
    start ≤ n.start ∧ n.stop ≤ stop ∧ n.Nested ∧ Row n.stop stop l := by
  constructor
  · intro h
    obtain ⟨hstart, hstop⟩ := h.inside n List.mem_cons_self
    exact ⟨hstart, hstop, h.nested n List.mem_cons_self, h.tail⟩
  · rintro ⟨hstart, hstop, hn, hl⟩
    refine ⟨List.forall_mem_cons.2 ⟨hn, hl.nested⟩, List.forall_mem_cons.2 ⟨⟨hstart, hstop⟩, ?_⟩,
      List.pairwise_cons.2 ⟨fun m hm => (hl.inside m hm).1, hl.ordered⟩⟩
    intro m hm
    have := hl.inside m hm
    have := hn.start_le_stop
    omega

/-- A node in a row may be replaced by its parts. -/
theorem replace (h : Row start stop (l ++ n :: r)) : Row start stop (l ++ (n.children ++ r)) := by
  have hn : n.Nested := h.nested n (by simp)
  have hin := h.inside n (by simp)
  obtain ⟨hl, hnr, hlnr⟩ := List.pairwise_append.1 h.ordered
  obtain ⟨hright, hr⟩ := List.pairwise_cons.1 hnr
  refine ⟨fun m hm => ?_, fun m hm => ?_, ?_⟩
  · simp only [List.mem_append] at hm
    rcases hm with hm | hm | hm
    · exact h.nested m (by simp [hm])
    · exact hn.row.nested m hm
    · exact h.nested m (by simp [hm])
  · simp only [List.mem_append] at hm
    rcases hm with hm | hm | hm
    · exact h.inside m (by simp [hm])
    · have := hn.row.inside m hm
      omega
    · exact h.inside m (by simp [hm])
  · -- What stands to the left or to the right of the node stands there of its parts, too.
    refine List.pairwise_append.2 ⟨hl, List.pairwise_append.2 ⟨hn.row.ordered, hr, ?_⟩, ?_⟩
    · intro c hc m hm
      exact Nat.le_trans (hn.row.inside c hc).2 (hright m hm)
    · intro m hm c hc
      rcases List.mem_append.1 hc with hc | hc
      · exact Nat.le_trans (hlnr m hm n List.mem_cons_self) (hn.row.inside c hc).1
      · exact hlnr m hm c (List.mem_cons_of_mem _ hc)

/-- Nodes side by side are together at most as long as the room they stand in. -/
theorem sum_span_le (h : Row start stop l) : (l.map Node.span).sum ≤ stop - start := by
  induction l generalizing start with
  | nil => exact Nat.zero_le _
  | cons n l ih =>
    have hin := h.inside n List.mem_cons_self
    have hle := (h.nested n List.mem_cons_self).start_le_stop
    have hrest := ih h.tail
    rw [List.map_cons, List.sum_cons, Node.span]
    omega

end Row

/-! ## Checking spans -/

namespace Node

mutual

/-- Whether the spans of a tree are nested. -/
def isNested : Node → Bool
  | ⟨_, _, _, _, start, stop, _, children⟩ => decide (start ≤ stop) && isRow start stop children

/-- Whether nodes with nested spans stand side by side between two offsets. -/
def isRow (start stop : Nat) : List Node → Bool
  | [] => true
  | n :: rest =>
    decide (start ≤ n.start) && decide (n.stop ≤ stop) && n.isNested && isRow n.stop stop rest

end

mutual

/-- Whether spans are nested can be computed. -/
theorem isNested_iff : ∀ n : Node, n.isNested = true ↔ n.Nested
  | ⟨symbol, named, missing, role, start, stop, point, children⟩ => by
    rw [isNested, Bool.and_eq_true, decide_eq_true_iff, isRow_iff start stop children]
    exact ⟨fun ⟨hle, hrow⟩ => .intro hle hrow.inside hrow.ordered hrow.nested,
      fun h => ⟨h.start_le_stop, h.row⟩⟩

theorem isRow_iff : ∀ (start stop : Nat) (l : List Node), isRow start stop l = true ↔ Row start stop l
  | start, stop, [] => by
    refine iff_of_true rfl ⟨?_, ?_, List.Pairwise.nil⟩ <;> simp
  | start, stop, n :: l => by
    rw [isRow, Row.cons_iff, ← isNested_iff n, ← isRow_iff n.stop stop l]
    simp [and_assoc]

end

instance (n : Node) : Decidable n.Nested :=
  decidable_of_iff _ (isNested_iff n)

end Node

/-! ## Rows of a search -/

namespace Search

variable {α : Type} {find? : Node → Option α} {place : α → Node} {start stop : Nat}

/-- The nodes where something was found, and then the trees that are still to be searched. -/
def line (place : α → Node) (s : Search α) : List Node :=
  s.found.map place ++ s.stack

/-- A turn keeps the row of what was found and of what is still to be searched. -/
theorem row_turn (hplace : ∀ n x, find? n = some x → place x = n) {s : Search α}
    (h : Row start stop (s.line place)) : Row start stop ((s.turn find?).line place) := by
  obtain ⟨_ | ⟨n, stack⟩, found⟩ := s
  · exact h
  cases hn : find? n with
  | some x =>
    -- The node moves from the stack to what was found, and stays where it is in the line.
    have hline : line place ⟨stack, found ++ [x]⟩ = line place ⟨n :: stack, found⟩ := by
      simp [line, hplace n x hn]
    rw [turn_of_some hn, hline]
    exact h
  | none =>
    rw [turn_of_none hn]
    exact h.replace

/-- What was found and what is still to be searched stand side by side after every turn. -/
theorem row_iterate (hplace : ∀ n x, find? n = some x → place x = n) {s : Search α}
    (h : Row start stop (s.line place)) (k : Nat) :
    Row start stop (((turn find?)^[k] s).line place) := by
  induction k with
  | zero => exact h
  | succ k ih =>
    rw [Function.iterate_succ_apply']
    exact row_turn hplace ih

/-- What a search of a tree finds stands in a row inside the tree. -/
theorem row_outermost (hplace : ∀ n x, find? n = some x → place x = n) {root : Node}
    (h : root.Nested) : Row root.start root.stop ((Node.outermost find? [root]).map place) := by
  have hrow := row_iterate hplace (s := ⟨[root], []⟩) (Row.singleton h)
    (Node.pending find? (Search.mk [root] ([] : List α)).stack).length
  rw [iterate_length, line] at hrow
  simpa using hrow

end Search

end BundleManifest.Script
