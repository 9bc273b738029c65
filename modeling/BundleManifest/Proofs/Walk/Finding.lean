import BundleManifest.Proofs.Registration
import BundleManifest.Proofs.Script.Search
import BundleManifest.Walk

/-!
# Findings

Two calls of a script may have equal records, so that two walks over the same bundle cannot be
compared by their records alone. A *finding* is a record together with the call it comes from and the
address of this call, which no other node has.

* `Walker.findings`: the findings of a walk, in source order;
* `mem_findings`: where there is a finding;
* `findings_filterMap`: an extraction that changes records, or leaves some out, changes the findings
  in the same way, and nothing else.
-/

namespace BundleManifest

open Script

/-- A record with the call it comes from. -/
structure Finding where
  /-- Where the call stands in the tree of the bundle. -/
  address : Address
  /-- The call. -/
  call : Node
  /-- The record. -/
  record : Record

namespace Walker

/-- The record of a node, if the node is a registration that has one. -/
def recordOf? (w : Walker) (source : Source) (n : Node) : Option Record :=
  (w.classifier.classify source n).bind (w.extraction.build source)

/-- The finding at a node with its address. -/
def finding? (w : Walker) (source : Source) (p : Address × Node) : Option Finding :=
  (w.recordOf? source p.2).map (⟨p.1, p.2, ·⟩)

/-- The findings of a walk over a bundle, in source order. -/
def findings (w : Walker) (b : Bundle) : List Finding :=
  (b.root.exposed (w.classifier.classify b.source)).filterMap (w.finding? b.source)

variable {w : Walker} {b : Bundle} {f : Finding}

/-- The records of a walk are those of its findings. -/
theorem map_record_findings : (w.findings b).map Finding.record = w.records b := by
  have hpending : Node.pending (w.classifier.classify b.source) [b.root] =
      (b.root.exposed (w.classifier.classify b.source)).map Prod.snd :=
    List.flatMap_singleton _ _
  rw [records, registrations, Node.outermost_eq, hpending, List.filterMap_map,
    List.filterMap_filterMap, findings, List.map_filterMap]
  congr 1
  funext p
  rw [finding?, Option.map_map]
  exact Option.map_id'

/-- Whether there was anything to decode does not depend on what a walk looks for and takes. -/
theorem status_walk (w : Walker) (b : Bundle) :
    (w.walk b).status = if b.statementCount = 0 then .emptyInput else .ok := by
  rw [walk]
  split <;> rfl

/-- The input is empty exactly if the bundle has no statement. -/
theorem status_walk_eq_emptyInput_iff : (w.walk b).status = .emptyInput ↔ b.statementCount = 0 := by
  rw [status_walk]
  split
  · next h => exact iff_of_true rfl h
  · next h => exact iff_of_false WalkStatus.noConfusion h

/-- The records of the result of a walk are those of its findings, if the bundle has any
    statements. -/
theorem records_walk (w : Walker) (b : Bundle) :
    (w.walk b).records = if b.statementCount = 0 then [] else (w.findings b).map Finding.record := by
  rw [walk, map_record_findings]
  split <;> rfl

/-- A finding is a node with a record above which there is no registration. -/
theorem mem_findings : f ∈ w.findings b ↔
    (f.address, f.call) ∈ b.root.exposed (w.classifier.classify b.source) ∧
      w.recordOf? b.source f.call = some f.record := by
  rw [findings, List.mem_filterMap]
  constructor
  · rintro ⟨p, hp, hf⟩
    obtain ⟨record, hrecord, rfl⟩ := Option.map_eq_some_iff.1 hf
    exact ⟨hp, hrecord⟩
  · rintro ⟨hp, hrecord⟩
    exact ⟨(f.address, f.call), hp, Option.map_eq_some_iff.2 ⟨f.record, hrecord, rfl⟩⟩

/-- No two findings are at one address. -/
theorem nodup_address_findings : ((w.findings b).map Finding.address).Nodup := by
  have hexposed : ((b.root.exposed (w.classifier.classify b.source)).map Prod.fst).Nodup :=
    (Node.nodup_located b.root).sublist (List.filter_sublist.map _)
  rw [List.Nodup, List.pairwise_map] at hexposed ⊢
  refine hexposed.filterMap _ fun p q hne f hf g hg => ?_
  obtain ⟨_, -, rfl⟩ := Option.map_eq_some_iff.1 hf
  obtain ⟨_, -, rfl⟩ := Option.map_eq_some_iff.1 hg
  exact hne

/-- When the records of one extraction are those of another one after a change `g`, which may leave
    some of them out, so are the findings. -/
theorem findings_filterMap {e e' : Extraction} {c : Classifier} {g : Record → Option Record}
    (h : ∀ r, e'.build b.source r = (e.build b.source r).bind g) :
    findings ⟨c, e'⟩ b =
      (findings ⟨c, e⟩ b).filterMap fun f => (g f.record).map fun record => { f with record } := by
  rw [findings, findings, List.filterMap_filterMap]
  congr 1
  funext p
  simp only [finding?, recordOf?]
  cases c.classify b.source p.2 with
  | none => rfl
  | some r =>
    rw [Option.bind_some, Option.bind_some, h]
    cases e.build b.source r <;> rfl

end Walker

end BundleManifest
