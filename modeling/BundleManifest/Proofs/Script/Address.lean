import BundleManifest.Script.Preorder
import Mathlib.Data.List.Nodup

/-!
# Addresses of nodes

Two nodes of a tree may be equal, so that a node does not say where it stands. Its *address* does: the
places of the parts on the way to it from the root.

Both the list of nodes with their addresses and the list of nodes on the way to an address are defined
by recursion on the tree. The two are tied together by induction on the tree, part by part: the
addresses below the part number `i` are those that begin with `i`, which are different for different
parts.

* `Node.at?`: the node at an address;
* `Node.ancestors`: the nodes on the way to an address, without the one at it;
* `Node.located`: the nodes of a tree with their addresses, in preorder. Every node of the tree is
  listed (`mem_located`), at one place (`nodup_located`).
-/

namespace BundleManifest.Script

/-- Where a node stands in a tree: the places of the parts on the way to it from the root. -/
abbrev Address := List Nat

namespace Node

/-- What holds of a node when it holds of its parts holds of every node. -/
theorem induction_parts {motive : Node → Prop}
    (step : ∀ n, (∀ c ∈ n.children, motive c) → motive n) (n : Node) : motive n :=
  step n fun c hc =>
    have := size_lt_of_mem hc
    induction_parts step c
  termination_by n.size

/-! ## Addresses -/

/-- The node at an address. -/
def at? : Node → Address → Option Node
  | n, [] => some n
  | n, i :: a => n.children[i]?.bind (·.at? a)

/-- The nodes on the way to an address, from the root down, without the node at the address. -/
def ancestors : Node → Address → List Node
  | _, [] => []
  | n, i :: a => n :: (n.children[i]?.map (·.ancestors a)).getD []

variable {n m : Node} {a b : Address} {i : Nat}

theorem at?_cons : n.at? (i :: a) = some m ↔ ∃ c, n.children[i]? = some c ∧ c.at? a = some m := by
  rw [at?, Option.bind_eq_some_iff]

/-- Going down an address is going down its two halves. -/
theorem at?_append (n : Node) (a b : Address) : n.at? (a ++ b) = (n.at? a).bind (·.at? b) := by
  induction a generalizing n with
  | nil => rfl
  | cons i a ih =>
    rw [List.cons_append, at?, at?]
    cases n.children[i]? with
    | none => rfl
    | some c => exact ih c

theorem ancestors_cons {c : Node} (h : n.children[i]? = some c) :
    n.ancestors (i :: a) = n :: c.ancestors a := by
  rw [ancestors, h]
  rfl

/-- The ancestors of an address are the nodes at the addresses that it extends. -/
theorem mem_ancestors : m ∈ n.ancestors a ↔ ∃ b, b <+: a ∧ b ≠ a ∧ n.at? b = some m := by
  induction a generalizing n with
  | nil =>
    refine iff_of_false List.not_mem_nil ?_
    rintro ⟨b, hb, hne, -⟩
    exact hne (List.prefix_nil.1 hb)
  | cons i a ih =>
    constructor
    · intro hm
      rcases List.mem_cons.1 hm with rfl | hm
      · exact ⟨[], List.nil_prefix, (List.cons_ne_nil _ _).symm, rfl⟩
      · cases hc : n.children[i]? with
        | none => simp [hc] at hm
        | some c =>
          rw [hc] at hm
          obtain ⟨b, hb, hne, hat⟩ := ih.1 hm
          exact ⟨i :: b, List.cons_prefix_cons.2 ⟨rfl, hb⟩, by simpa using hne,
            at?_cons.2 ⟨c, hc, hat⟩⟩
    · rintro ⟨b, hb, hne, hat⟩
      cases b with
      | nil =>
        obtain rfl := Option.some.inj hat
        exact List.mem_cons_self
      | cons j b =>
        obtain ⟨rfl, hpre⟩ := List.cons_prefix_cons.1 hb
        obtain ⟨c, hc, hat⟩ := at?_cons.1 hat
        rw [ancestors_cons hc]
        exact List.mem_cons_of_mem _ (ih.2 ⟨b, hpre, by simpa using hne, hat⟩)

/-! ## The nodes of a tree with their addresses -/

mutual

/-- The nodes of a tree with their addresses: a node, and then the nodes of its parts from left to
    right. -/
def located : Node → List (Address × Node)
  | ⟨symbol, named, missing, role, start, stop, point, children⟩ =>
    ([], ⟨symbol, named, missing, role, start, stop, point, children⟩) :: locatedAll 0 children

/-- The nodes of the parts from the `i`-th on, with their addresses in the whole. -/
def locatedAll (i : Nat) : List Node → List (Address × Node)
  | [] => []
  | n :: rest => n.located.map (fun p => (i :: p.1, p.2)) ++ locatedAll (i + 1) rest

end

theorem located_eq (n : Node) : n.located = ([], n) :: locatedAll 0 n.children := by
  cases n; rfl

mutual

/-- Without their addresses, the nodes are in preorder. -/
theorem map_snd_located : ∀ n : Node, n.located.map Prod.snd = n.preorder
  | ⟨_, _, _, _, _, _, _, children⟩ => by
    rw [located, preorder, List.map_cons, map_snd_locatedAll 0 children]

/-- The located nodes of some parts are those of the preorder. -/
theorem map_snd_locatedAll : ∀ (i : Nat) (l : List Node),
    (locatedAll i l).map Prod.snd = preorderAll l
  | _, [] => rfl
  | i, n :: l => by
    rw [locatedAll, preorderAll, List.map_append, List.map_map, ← map_snd_located n,
      ← map_snd_locatedAll (i + 1) l]
    rfl

end

/-- A node below some parts is located by the place of one of them, and then by its address in that
    part. -/
theorem mem_locatedAll {l : List Node} :
    (a, m) ∈ locatedAll i l ↔ ∃ j b c, a = (i + j) :: b ∧ l[j]? = some c ∧ (b, m) ∈ c.located := by
  induction l generalizing i with
  | nil => simp [locatedAll]
  | cons n l ih =>
    rw [locatedAll, List.mem_append, ih, List.mem_map]
    constructor
    · rintro (⟨⟨b, m'⟩, hb, heq⟩ | ⟨j, b, c, rfl, hc, hb⟩)
      · obtain ⟨rfl, rfl⟩ := Prod.mk.inj heq
        exact ⟨0, b, n, rfl, rfl, hb⟩
      · exact ⟨j + 1, b, c, by rw [Nat.add_right_comm, Nat.add_assoc], hc, hb⟩
    · rintro ⟨j, b, c, rfl, hc, hb⟩
      cases j with
      | zero =>
        obtain rfl := Option.some.inj hc
        exact .inl ⟨(b, m), hb, rfl⟩
      | succ j => exact .inr ⟨j, b, c, by rw [Nat.add_right_comm, Nat.add_assoc], hc, hb⟩

/-- A node is listed with the address at which it is. -/
theorem mem_located : (a, m) ∈ n.located ↔ n.at? a = some m := by
  -- By induction on the tree: an address goes to the node itself or through one of its parts.
  induction n using induction_parts generalizing a with
  | step n ih =>
    rw [located_eq, List.mem_cons, mem_locatedAll]
    cases a with
    | nil => simp [at?, eq_comm]
    | cons i a =>
      rw [at?_cons]
      constructor
      · rintro (heq | ⟨j, b, c, heq, hc, hb⟩)
        · cases heq
        · obtain ⟨rfl, rfl⟩ := List.cons.inj heq
          rw [Nat.zero_add]
          exact ⟨c, hc, (ih c (List.mem_of_getElem? hc)).1 hb⟩
      · rintro ⟨c, hc, hat⟩
        exact .inr ⟨i, a, c, by rw [Nat.zero_add], hc, (ih c (List.mem_of_getElem? hc)).2 hat⟩

/-- The nodes of a tree are those at its addresses. -/
theorem mem_preorder_iff : m ∈ n.preorder ↔ ∃ a, n.at? a = some m := by
  rw [← map_snd_located, List.mem_map]
  constructor
  · rintro ⟨⟨a, m⟩, hm, rfl⟩
    exact ⟨a, mem_located.1 hm⟩
  · rintro ⟨a, ha⟩
    exact ⟨(a, m), mem_located.2 ha, rfl⟩

theorem self_mem_preorder (n : Node) : n ∈ n.preorder :=
  mem_preorder_iff.2 ⟨[], rfl⟩

theorem mem_preorder_trans {a b c : Node} (hb : b ∈ a.preorder) (hc : c ∈ b.preorder) :
    c ∈ a.preorder := by
  obtain ⟨i, hi⟩ := mem_preorder_iff.1 hb
  obtain ⟨j, hj⟩ := mem_preorder_iff.1 hc
  exact mem_preorder_iff.2 ⟨i ++ j, by rw [at?_append, hi, Option.bind_some, hj]⟩

theorem mem_preorderAll_iff {l : List Node} : m ∈ preorderAll l ↔ ∃ c ∈ l, m ∈ c.preorder := by
  induction l with
  | nil => simp [preorderAll]
  | cons c l ih => simp [preorderAll, ih]

/-- The parts of a node of a tree are nodes of the tree. -/
theorem mem_preorder_of_mem_children {c : Node} (hm : m ∈ n.preorder) (hc : c ∈ m.children) :
    c ∈ n.preorder := by
  obtain ⟨a, ha⟩ := mem_preorder_iff.1 hm
  obtain ⟨i, hi⟩ := List.getElem?_of_mem hc
  refine mem_preorder_iff.2 ⟨a ++ [i], ?_⟩
  rw [at?_append, ha, Option.bind_some, at?_cons]
  exact ⟨c, hi, rfl⟩

/-- The nodes of a part of a tree are nodes of the tree. -/
theorem mem_preorder_of_part {c : Node} (hc : c ∈ n.children) (hm : m ∈ c.preorder) :
    m ∈ n.preorder :=
  mem_preorder_trans (mem_preorder_of_mem_children n.self_mem_preorder hc) hm

mutual

/-- Every node of a tree is listed at one place. -/
theorem nodup_located : ∀ n : Node, (n.located.map Prod.fst).Nodup
  | ⟨_, _, _, _, _, _, _, children⟩ => by
    rw [located, List.map_cons, List.nodup_cons]
    refine ⟨fun h => ?_, nodup_locatedAll 0 children⟩
    obtain ⟨⟨a, m⟩, hm, rfl⟩ := List.mem_map.1 h
    obtain ⟨j, b, c, heq, -⟩ := mem_locatedAll.1 hm
    exact List.cons_ne_nil _ _ heq.symm

/-- No two nodes below the parts have the same address. -/
theorem nodup_locatedAll : ∀ (i : Nat) (l : List Node), ((locatedAll i l).map Prod.fst).Nodup
  | _, [] => List.nodup_nil
  | i, n :: l => by
    rw [locatedAll, List.map_append, List.map_map, List.nodup_append]
    refine ⟨?_, nodup_locatedAll (i + 1) l, ?_⟩
    · have := (nodup_located n).map (List.cons_injective (a := i))
      rwa [List.map_map] at this
    · -- The addresses of the first part begin with `i`, and those of the others with larger numbers.
      intro a ha a' ha' heq
      obtain ⟨p, -, rfl⟩ := List.mem_map.1 ha
      obtain ⟨⟨a', m⟩, hm, rfl⟩ := List.mem_map.1 ha'
      obtain ⟨j, b, c, rfl, -⟩ := mem_locatedAll.1 hm
      have := (List.cons.inj heq).1
      omega

end

end Node

end BundleManifest.Script
