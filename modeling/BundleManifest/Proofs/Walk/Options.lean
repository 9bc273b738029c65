import BundleManifest.Proofs.PackageSize
import BundleManifest.Proofs.Walk.Finding

/-!
# Walks that take less

A walk can leave out the bodies of modules, or the loader. Neither changes what is searched: such a
walk finds what a walk that takes everything finds, at the same places and in the same order, without
the bodies or without the records of loaders.

* `Extraction.build_eq_bind_keep`: what the options do to one record;
* `Walker.findings_eq_filterMap_keep`: what they do to the findings of a walk;
* `Walker.options_project`: each option on its own, and both together.
-/

namespace BundleManifest

open Script

variable {c : Classifier} {b : Bundle} {content loader : Bool}

/-- The finding without the body of its module. -/
def Finding.withoutContent (f : Finding) : Finding :=
  { f with record := f.record.withoutContent }

/-- What an extraction keeps of a record that has everything. -/
def Extraction.keep (e : Extraction) (record : Record) : Option Record :=
  if record.kind = .bootstrap ∧ e.includeLoader = false then none
  else some (if e.includeContent then record else record.withoutContent)

/-- The record of a call is what the extraction keeps of the record that has everything. -/
theorem Extraction.build_eq_bind_keep (e : Extraction) (source : Source) (r : Registration) :
    e.build source r = (build {} source r).bind e.keep := by
  obtain ⟨content, loader⟩ := e
  cases hkind : r.kind with
  | run => simp only [build, hkind, Option.bind_none]
  | bootstrap => cases loader <;> cases content <;> simp [build, keep, hkind, Record.withoutContent]
  | define => cases content <;> simp [build, keep, hkind, Record.withoutContent]
  | installed | main | remap | builtin =>
    -- These have no body that could be left out.
    cases content <;> simp [build, keep, hkind, Record.withoutContent]

namespace Walker

/-- The findings of a walk are what its extraction keeps of the findings of a walk that takes
    everything. -/
theorem findings_eq_filterMap_keep (e : Extraction) : findings ⟨c, e⟩ b =
    (findings ⟨c, {}⟩ b).filterMap fun f => (e.keep f.record).map fun record => { f with record } :=
  findings_filterMap (e.build_eq_bind_keep b.source)

/-- Without the bodies of modules, the same findings. -/
theorem findings_content : findings ⟨c, ⟨false, loader⟩⟩ b =
    (findings ⟨c, ⟨true, loader⟩⟩ b).map Finding.withoutContent := by
  rw [findings_eq_filterMap_keep, findings_eq_filterMap_keep ⟨true, loader⟩, List.map_filterMap]
  congr 1
  funext f
  simp only [Extraction.keep]
  split <;> rfl

/-- Without the loader, the same findings but for those of loaders. -/
theorem findings_loader : findings ⟨c, ⟨content, false⟩⟩ b =
    (findings ⟨c, ⟨content, true⟩⟩ b).filter (·.record.kind ≠ .bootstrap) := by
  rw [findings_eq_filterMap_keep, findings_eq_filterMap_keep ⟨content, true⟩, List.filter_filterMap]
  congr 1
  funext f
  by_cases h : f.record.kind = .bootstrap <;> cases content <;>
    simp [Extraction.keep, h, Record.withoutContent, Option.filter]

/-- A walk without a loader finds nothing at a loader, and nothing inside one. -/
theorem not_bootstrap_of_mem_findings {f : Finding} {a : Address} {n : Node} {r : Registration}
    (hf : f ∈ findings ⟨c, ⟨content, false⟩⟩ b) (ha : a <+: f.address) (hn : b.root.at? a = some n)
    (hr : c.classify b.source n = some r) : r.kind ≠ .bootstrap := by
  intro hkind
  obtain ⟨hexposed, hrecord⟩ := mem_findings.1 hf
  obtain ⟨hcall, hclear⟩ := Node.mem_exposed.1 hexposed
  by_cases heq : a = f.address
  · -- The loader is the call of the finding, which has no record then.
    subst heq
    obtain rfl : n = f.call := Option.some.inj (hn.symm.trans hcall)
    rw [recordOf?, hr, Option.bind_some] at hrecord
    simp [Extraction.build, hkind] at hrecord
  · rw [hclear a n ha heq hn] at hr
    cases hr

/-- What a walk finds without the bodies of modules, or without the loader, is what it finds with
    them, less the bodies and less the records of loaders. It does not find anything inside a loader
    instead; whether there was anything to decode stays the same; and either option can be applied
    first. So do the sizes of packages stay the same without bodies, and their order, but for the
    compressed sizes. -/
theorem options_project (c : Classifier) (b : Bundle) :
    let run (content loader : Bool) : WalkResult := walk ⟨c, ⟨content, loader⟩⟩ b
    let found (content loader : Bool) : List Finding := findings ⟨c, ⟨content, loader⟩⟩ b
    (∀ content loader, (found content loader).map Finding.record = records ⟨c, ⟨content, loader⟩⟩ b ∧
      (run content loader).records =
        if b.statementCount = 0 then [] else (found content loader).map Finding.record) ∧
    (∀ loader, found false loader = (found true loader).map Finding.withoutContent ∧
      (run false loader).records = (run true loader).records.map Record.withoutContent) ∧
    (∀ content, found content false = (found content true).filter (·.record.kind ≠ .bootstrap) ∧
      (run content false).records = (run content true).records.filter (·.kind ≠ .bootstrap)) ∧
    (∀ content, ∀ f ∈ found content false, ∀ a n r, a <+: f.address → b.root.at? a = some n →
      c.classify b.source n = some r → r.kind ≠ .bootstrap) ∧
    (∀ content loader, (run content loader).status = (run true true).status) ∧
    ((run false false).records =
        ((run true true).records.map Record.withoutContent).filter (·.kind ≠ .bootstrap) ∧
      (run false false).records =
        ((run true true).records.filter (·.kind ≠ .bootstrap)).map Record.withoutContent) ∧
    ∀ loader, PackageSize.summarize (run false loader).records =
      (PackageSize.summarize (run true loader).records).map PackageSize.withoutGzip := by
  intro run found
  have hcontent : ∀ loader, (run false loader).records =
      (run true loader).records.map Record.withoutContent := by
    intro loader
    simp only [run, records_walk, findings_content]
    split
    · rfl
    · rw [List.map_map, List.map_map]
      rfl
  have hloader : ∀ content, (run content false).records =
      (run content true).records.filter (·.kind ≠ .bootstrap) := by
    intro content
    simp only [run, records_walk, findings_loader]
    split
    · rfl
    · rw [List.filter_map]
      rfl
  refine ⟨fun content loader => ⟨map_record_findings, records_walk _ _⟩,
    fun loader => ⟨findings_content, hcontent loader⟩, fun content =>
      ⟨findings_loader, hloader content⟩,
    fun content f hf a n r => not_bootstrap_of_mem_findings hf, fun content loader => ?_,
    ⟨?_, ?_⟩, fun loader => ?_⟩
  · rw [status_walk, status_walk]
  -- The options in either order.
  · rw [hloader, hcontent]
  · rw [hcontent, hloader]
  · rw [hcontent, PackageSize.summarize_withoutContent]

/-- A module that is registered inside the loader stays hidden when the loader has no record. -/
theorem options_project_of_text :
    let text := "(function()\x7bm.main('/a$1')\x7d)();m.def('/b$2',function()\x7bx\x7d)"
    let b : Bundle := ⟨Source.ofText text, (reading text.toList).root⟩
    ((walk {} b).records.map fun r => (r.kind, r.content)) =
    [(.bootstrap, ""), (.define, "\x7bx\x7d")] ∧
      (walk ⟨{}, ⟨true, false⟩⟩ b).records = (walk {} b).records.filter (·.kind ≠ .bootstrap) ∧
      (walk ⟨{}, ⟨false, true⟩⟩ b).records = (walk {} b).records.map Record.withoutContent ∧
      (walk ⟨{}, ⟨false, false⟩⟩ b).status = .ok := by
  intro text b
  obtain ⟨-, hcontent, hloader, -, hstatus, -⟩ := options_project {} b
  obtain ⟨hrecords, hok⟩ : ((walk {} b).records.map fun r => (r.kind, r.content)) =
      [(.bootstrap, ""), (.define, "\x7bx\x7d")] ∧ (walk {} b).status = .ok := by
    decide +kernel
  exact ⟨hrecords, (hloader true).2, (hcontent true).2, (hstatus false false).trans hok⟩

end Walker

end BundleManifest
