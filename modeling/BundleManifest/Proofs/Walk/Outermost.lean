import BundleManifest.Proofs.Script.Search
import BundleManifest.Walk

/-!
# Which calls have records

A walk searches the tree of a bundle with a stack, and does not look below a registration. In terms of
the tree: the records are those of the registrations that have no registration above them, in source
order. Whether a registration has a record does not matter for what it hides.
-/

namespace BundleManifest.Walker

open Script

/-- The records of a bundle are those of its exposed registrations, in preorder.

    * Each exposed node that is a registration, and has a record, adds this record.
    * A node is exposed if no node above it is a registration, with a record or without one. So the
      parts of an exposed node are exposed, too, unless it is a registration.
    * The exposed nodes are listed in the order in which all nodes of the tree are visited, and each
      stands at an address of its own.
    * The `k`-th turn of the loop takes the `k`-th exposed node, and with the last of them the loop
      ends with all registrations found. -/
theorem records_eq_exposed (w : Walker) (b : Bundle) :
    let find? := w.classifier.classify b.source
    let exposed := b.root.exposed find?
    w.records b =
      exposed.filterMap (fun p => (find? p.2).bind (w.extraction.build b.source)) ∧
    (∀ a n, (a, n) ∈ exposed ↔ b.root.at? a = some n ∧
      ∀ a' m, a' <+: a → a' ≠ a → b.root.at? a' = some m → find? m = none) ∧
    (∀ a n i c, (a, n) ∈ exposed → n.children[i]? = some c →
      ((a ++ [i], c) ∈ exposed ↔ find? n = none)) ∧
    (exposed.Sublist b.root.located ∧ b.root.located.map Prod.snd = Node.visit [b.root] ∧
      (b.root.located.map Prod.fst).Nodup ∧
      ∀ a n, (a, n) ∈ b.root.located ↔ b.root.at? a = some n) ∧
    (∀ k, ((Search.turn find?)^[k] ⟨[b.root], []⟩).stack.head? = (exposed.map Prod.snd)[k]?) ∧
    (Search.turn find?)^[exposed.length] ⟨[b.root], []⟩ = ⟨[], w.registrations b⟩ := by
  intro find? exposed
  have hpending : Node.pending find? [b.root] = exposed.map Prod.snd :=
    List.flatMap_singleton _ _
  refine ⟨?_, fun a n => Node.mem_exposed, fun a n i c h hc => Node.part_mem_exposed h hc,
    ⟨List.filter_sublist, ?_, Node.nodup_located _, fun a n => Node.mem_located⟩, fun k => ?_, ?_⟩
  · rw [records, registrations, Node.outermost_eq, hpending, List.filterMap_map,
      List.filterMap_filterMap]
    rfl
  · rw [Node.map_snd_located, Node.visit_eq, Node.preorderAll, Node.preorderAll, List.append_nil]
  · rw [Search.head?_stack_iterate, hpending]
  · have hend := Search.iterate_length find? ⟨[b.root], []⟩
    rwa [hpending, List.length_map] at hend

end BundleManifest.Walker
