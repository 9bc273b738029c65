import BundleManifest.Proofs.Walk.Finding

/-!
# Walks that ask for a receiver

A walk that asks for a receiver finds more than those findings of any other walk that have this
receiver: a call on another receiver is ordinary code for it, and so it searches what this call hides
from a walk that accepts every receiver.

The two searches are compared by what is exposed to each of them: a test that finds less hides less. A
finding that only the walk with a receiver has must have been hidden, and what hid it is found by the
other walk above it, on another receiver.

* `Classifier.classify_receiver`: what is a registration when a receiver is asked for;
* `Node.exposed_sublist`: the less a test finds, the more nodes are exposed to the search;
* `Walker.receiver_findings`: no finding with the receiver is lost, and the further ones are those
  that a call on another receiver was hiding.
-/

namespace BundleManifest

open Script

variable {source : Source} {n : Node} {wanted : String}

/-! ## Registrations -/

/-- The source text of the object whose method a call calls; empty if it calls no method. -/
def Script.Node.objectText (source : Source) (call : Node) : String :=
  (((call.child? .callee).map Node.unwrap).bind fun callee =>
    (callee.child? .object).map (·.text source)).getD ""

/-- A method of the registry is not the loader, and belongs to the object that the callee names. -/
theorem Script.Node.of_registryMethod? {callee : Node} {kind : CallKind} {receiver : String}
    (h : callee.registryMethod? source = some (kind, receiver)) :
    kind ≠ .bootstrap ∧ receiver = ((callee.child? .object).map (·.text source)).getD "" := by
  rw [registryMethod?] at h
  split at h
  · split at h
    · cases h
    · next property _ =>
      split at h
      · obtain ⟨kind', hverb, heq⟩ := Option.map_eq_some_iff.1 h
        obtain ⟨rfl, rfl⟩ := Prod.mk.inj heq
        refine ⟨?_, rfl⟩
        rintro rfl
        exact absurd (Option.filter_eq_some_iff.1 hverb).2 (by decide)
      · cases h
  · cases h

/-- With a receiver, a node is a registration if it is one without, and is a loader or a call on this
    receiver. -/
theorem Classifier.classify_receiver (wanted : String) (source : Source) (n : Node) :
    Classifier.classify { receiver := some wanted } source n =
      (Classifier.classify {} source n).filter fun r =>
        r.kind = .bootstrap ∨ n.objectText source = wanted := by
  rw [classify, classify]
  split
  · cases hcallee : (n.child? .callee).map Node.unwrap with
    | none => rfl
    | some callee =>
      dsimp only
      split
      · rfl
      · cases hmethod : callee.registryMethod? source with
        | none => rfl
        | some method =>
          obtain ⟨kind, receiver⟩ := method
          obtain ⟨hkind, hreceiver⟩ := Node.of_registryMethod? hmethod
          have hobject : n.objectText source = receiver := by
            rw [Node.objectText, hcallee, hreceiver]
            rfl
          simp [accepts, Option.filter, hkind, hobject]
  · rfl

/-! ## Exposed nodes -/

/-- A test that finds something only where another one does exposes all nodes that the other one
    exposes. -/
theorem Script.Node.exposed_sublist {α β : Type} {find? : Node → Option α} {other? : Node → Option β}
    (h : ∀ m, find? m = none → other? m = none) (n : Node) :
    (n.exposed find?).Sublist (n.exposed other?) := by
  refine List.monotone_filter_right _ fun p hp => ?_
  simp only [isExposed, List.all_eq_true, Option.isNone_iff_eq_none] at hp ⊢
  exact fun m hm => h m (hp m hm)

/-! ## Findings -/

namespace Walker

variable {e : Extraction} {b : Bundle} {f : Finding}

/-- Whether a finding is a loader, or has the receiver. -/
def Accepts (source : Source) (wanted : String) (f : Finding) : Prop :=
  f.record.kind = .bootstrap ∨ f.call.objectText source = wanted

instance : DecidablePred (Accepts source wanted) :=
  fun _ => inferInstanceAs (Decidable (_ ∨ _))

/-- A call on another receiver: a registration, and no loader, when no receiver is asked for. -/
def IsForeign (source : Source) (wanted : String) (n : Node) : Prop :=
  ∃ r, Classifier.classify {} source n = some r ∧ r.kind ≠ .bootstrap ∧ n.objectText source ≠ wanted

/-- With a receiver, the calls on other receivers are no registrations any more. -/
theorem isForeign_iff : IsForeign source wanted n ↔
    Classifier.classify {} source n ≠ none ∧
      Classifier.classify { receiver := some wanted } source n = none := by
  rw [IsForeign, Classifier.classify_receiver]
  cases Classifier.classify {} source n with
  | none => simp
  | some r => simp [Option.filter]

/-- With a receiver, a node has a record if it has one without, which is then the same, and if it is a
    loader or a call on this receiver. -/
theorem recordOf?_receiver (n : Node) :
    recordOf? ⟨{ receiver := some wanted }, e⟩ source n =
      (recordOf? ⟨{}, e⟩ source n).filter fun record =>
        record.kind = .bootstrap ∨ n.objectText source = wanted := by
  rw [recordOf?, recordOf?, Classifier.classify_receiver]
  cases Classifier.classify {} source n with
  | none => rfl
  | some r =>
    rw [Option.bind_some]
    by_cases h : r.kind = .bootstrap ∨ n.objectText source = wanted <;>
      cases hbuild : e.build source r with
    | none => simp [Option.filter, h, hbuild]
    | some record =>
      have hkind := (Extraction.shape_of_build hbuild).1
      simp [Option.filter, h, hkind, hbuild]

/-- A receiver keeps those of the findings that call it. -/
theorem finding?_receiver (p : Address × Node) :
    finding? ⟨{ receiver := some wanted }, e⟩ source p =
      (finding? ⟨{}, e⟩ source p).filter (Accepts source wanted) := by
  rw [finding?, finding?, recordOf?_receiver, Option.filter_map]
  rfl

/-- Asking for a receiver loses no finding that is accepted. -/
theorem filter_findings_sublist :
    ((findings ⟨{}, e⟩ b).filter (Accepts b.source wanted)).Sublist
      (findings ⟨{ receiver := some wanted }, e⟩ b) := by
  -- What is no registration without a receiver is none with one.
  have hexposed : (b.root.exposed (Classifier.classify {} b.source)).Sublist
      (b.root.exposed (Classifier.classify { receiver := some wanted } b.source)) :=
    Node.exposed_sublist (fun m hm => by rw [Classifier.classify_receiver, hm]; rfl) b.root
  rw [findings, List.filter_filterMap]
  simp only [← finding?_receiver]
  exact hexposed.filterMap _

/-- Every finding of a walk that asks for a receiver is accepted. -/
theorem accepts_of_mem_findings (h : f ∈ findings ⟨{ receiver := some wanted }, e⟩ b) :
    Accepts b.source wanted f := by
  obtain ⟨p, -, hp⟩ := List.mem_filterMap.1 h
  rw [finding?_receiver, Option.filter_eq_some_iff] at hp
  exact of_decide_eq_true hp.2

/-- A finding of a walk that asks for a receiver is new if it is inside of a call on another
    receiver. -/
theorem notMem_findings_iff (h : f ∈ findings ⟨{ receiver := some wanted }, e⟩ b) :
    f ∉ findings ⟨{}, e⟩ b ↔
      ∃ a n, a <+: f.address ∧ a ≠ f.address ∧ b.root.at? a = some n ∧
        IsForeign b.source wanted n := by
  obtain ⟨hexposed, hrecord⟩ := mem_findings.1 h
  obtain ⟨hcall, hclear⟩ := Node.mem_exposed.1 hexposed
  constructor
  · -- The call has the same record without a receiver, so that it can only be hidden.
    intro hnew
    rw [recordOf?_receiver, Option.filter_eq_some_iff] at hrecord
    have hhidden : (f.address, f.call) ∉ b.root.exposed (Classifier.classify {} b.source) :=
      fun hexposed => hnew (mem_findings.2 ⟨hexposed, hrecord.1⟩)
    rw [Node.mem_exposed] at hhidden
    push Not at hhidden
    obtain ⟨a, n, ha, hne, hn, hfound⟩ := hhidden hcall
    exact ⟨a, n, ha, hne, hn, isForeign_iff.2 ⟨hfound, hclear a n ha hne hn⟩⟩
  · -- Above an old finding there is no registration of any receiver.
    rintro ⟨a, n, ha, hne, hn, hforeign⟩ hold
    obtain ⟨-, hclear⟩ := Node.mem_exposed.1 (mem_findings.1 hold).1
    exact (isForeign_iff.1 hforeign).1 (hclear a n ha hne hn)

/-- Compared with a walk that accepts every receiver, a walk that asks for one finds only loaders and
    calls on this receiver; it finds all of these that the other one finds, in the same order and with
    the same records; and what it finds besides stands inside of calls on other receivers. -/
theorem receiver_findings (e : Extraction) (b : Bundle) (wanted : String) :
    let found (c : Classifier) : List Finding := findings ⟨c, e⟩ b
    let all := found {}
    let chosen := found { receiver := some wanted }
    (∀ c, (found c).map Finding.record = records ⟨c, e⟩ b ∧ ((found c).map Finding.address).Nodup ∧
      (walk ⟨c, e⟩ b).records = if b.statementCount = 0 then [] else (found c).map Finding.record) ∧
    (∀ f ∈ chosen, f.record.kind = .bootstrap ∨ f.call.objectText b.source = wanted) ∧
    (all.filter fun f => f.record.kind = .bootstrap ∨
      f.call.objectText b.source = wanted).Sublist chosen ∧
    ∀ f ∈ chosen, f ∉ all ↔
      ∃ a n r, a <+: f.address ∧ a ≠ f.address ∧ b.root.at? a = some n ∧
        Classifier.classify {} b.source n = some r ∧ r.kind ≠ .bootstrap ∧
          n.objectText b.source ≠ wanted := by
  intro found all chosen
  refine ⟨fun c => ⟨map_record_findings, nodup_address_findings, records_walk _ _⟩,
    fun f hf => accepts_of_mem_findings hf, filter_findings_sublist, fun f hf => ?_⟩
  rw [notMem_findings_iff hf]
  constructor
  · rintro ⟨a, n, ha, hne, hn, r, hr⟩
    exact ⟨a, n, r, ha, hne, hn, hr⟩
  · rintro ⟨a, n, r, ha, hne, hn, hr⟩
    exact ⟨a, n, ha, hne, hn, r, hr⟩

/-- A call on `n` hides a call on `m` from a walk that accepts every receiver, but not from one that
    asks for `m`. What stands in a loader is hidden from both. -/
theorem receiver_findings_of_text :
    let text := "n.run(m.main('/a$1'));(function()\x7bm.main('/c$3')\x7d)();m.main('/b$2')"
    let b : Bundle := ⟨Source.ofText text, (reading text.toList).root⟩
    ((findings {} b).map fun f => f.record.path) = ["/module.js", "/b$2"] ∧
      ((findings ⟨{ receiver := some "m" }, {}⟩ b).map fun f => f.record.path) =
      ["/a$1", "/module.js", "/b$2"] ∧
      ((findings {} b).filter fun f => f.record.kind = .bootstrap ∨
        f.call.objectText b.source = "m").Sublist
        (findings ⟨{ receiver := some "m" }, {}⟩ b) := by
  intro text b
  have hfindings : ((findings {} b).map fun f => f.record.path) = ["/module.js", "/b$2"] ∧
      ((findings ⟨{ receiver := some "m" }, {}⟩ b).map fun f => f.record.path) =
        ["/a$1", "/module.js", "/b$2"] := by
    decide +kernel
  exact ⟨hfindings.1, hfindings.2, (receiver_findings {} b "m").2.2.1⟩

end Walker

end BundleManifest
