import BundleManifest.Proofs.Registration
import BundleManifest.Proofs.Script.Span
import BundleManifest.Walk

/-!
# Where the calls behind the records stand

The calls behind the records of a bundle stand side by side in the script, in the order of the
records, since no call is searched for further ones. So the sizes of the records add up to no more
than the script.

The row of a search is kept turn by turn (`Search.row_turn`), so that what it found is a row, too.
Each record has the span of its call as its size; records that are not built leave gaps in the row,
which do not matter for a sum that is only bounded from above.

* `Walker.entries`: the records, each with the call it comes from;
* `Walker.entries_side_by_side`: the calls stand side by side, in the order of the records, and the
  sizes are those of the calls.
-/

namespace BundleManifest.Walker

open Script

/-- The records of a bundle, each with the call behind it. -/
def entries (w : Walker) (b : Bundle) : List (Node × Record) :=
  (w.registrations b).filterMap fun r =>
    (w.extraction.build b.source r).map fun record => (r.node, record)

variable {w : Walker} {b : Bundle}

theorem map_snd_entries : (w.entries b).map Prod.snd = w.records b := by
  rw [entries, records, List.map_filterMap]
  congr 1
  funext r
  cases w.extraction.build b.source r <;> rfl

/-- Every entry is a node of the tree with the record of the registration that it is. -/
theorem of_mem_entries {e : Node × Record} (h : e ∈ w.entries b) :
    e.1 ∈ Node.visit [b.root] ∧
      (w.classifier.classify b.source e.1).bind (w.extraction.build b.source) = some e.2 := by
  -- Back from the record to its registration, and from there to a node that the search took.
  obtain ⟨r, hr, hrecord⟩ := List.mem_filterMap.1 h
  obtain ⟨record, hbuild, rfl⟩ := Option.map_eq_some_iff.1 hrecord
  rw [registrations, Node.outermost_eq] at hr
  obtain ⟨n, hn, hclassify⟩ := List.mem_filterMap.1 hr
  obtain rfl := Classifier.node_of_classify hclassify
  refine ⟨Node.mem_visit_of_mem_pending hn, ?_⟩
  rw [hclassify, Option.bind_some, hbuild]

/-- They hold them beside calls of the bundle, in the order of these. -/
theorem map_fst_entries_sublist :
    ((w.entries b).map Prod.fst).Sublist ((w.registrations b).map Registration.node) := by
  rw [entries]
  induction w.registrations b with
  | nil => exact List.Sublist.slnil
  | cons r l ih =>
    cases h : w.extraction.build b.source r with
    | none =>
      rw [List.filterMap_cons_none (by rw [h]; rfl)]
      exact ih.cons _
    | some record =>
      rw [List.filterMap_cons_some (by rw [h]; rfl)]
      exact ih.cons_cons _

/-- The calls behind the records stand side by side inside the script. -/
theorem row_entries (h : b.root.Nested) :
    Row b.root.start b.root.stop ((w.entries b).map Prod.fst) :=
  (Search.row_outermost (fun _ _ => Classifier.node_of_classify) h).sublist map_fst_entries_sublist

/-- A record has the size of the call behind it. -/
theorem size_eq_span {e : Node × Record} (h : e ∈ w.entries b) : e.2.size = e.1.span := by
  obtain ⟨r, -, hrecord⟩ := List.mem_filterMap.1 h
  obtain ⟨record, hbuild, rfl⟩ := Option.map_eq_some_iff.1 hrecord
  exact Extraction.size_of_build hbuild

/-- The sizes of the records are those of a row of calls. -/
theorem sum_size_eq :
    ((w.records b).map Record.size).sum =
      ((((w.entries b).map Prod.fst).map Node.span).sum : Nat) := by
  rw [← map_snd_entries, List.map_map, List.map_map, Nat.cast_list_sum, List.map_map]
  congr 1
  exact List.map_congr_left fun e he => size_eq_span he

/-- In a bundle whose tree has nested spans inside the script, the calls behind the records stand side
    by side, in the order of the records; the size of a record is the number of bytes of its call; and
    all sizes together are at most the size of the script. -/
theorem entries_side_by_side (w : Walker) (b : Bundle) (hnested : b.root.Nested)
    (hsource : b.root.stop ≤ b.source.size) :
    (w.entries b).map Prod.snd = w.records b ∧
    (∀ e ∈ w.entries b, e.1 ∈ Node.visit [b.root] ∧
      (w.classifier.classify b.source e.1).bind (w.extraction.build b.source) = some e.2) ∧
    (w.entries b).Pairwise (fun e f => e.1.stop ≤ f.1.start) ∧
    (∀ e ∈ w.entries b, e.1.start ≤ e.1.stop ∧ e.1.stop ≤ b.source.size ∧
      e.2.size = (e.1.stop : Int) - e.1.start) ∧
    ((w.records b).map Record.size).sum ≤ b.source.size := by
  have hrow := row_entries (w := w) hnested
  refine ⟨map_snd_entries, fun e he => of_mem_entries he, List.pairwise_map.1 hrow.ordered,
    fun e he => ?_, ?_⟩
  · have hcall : e.1 ∈ (w.entries b).map Prod.fst := List.mem_map_of_mem he
    have hle := (hrow.nested _ hcall).start_le_stop
    have hin := hrow.inside _ hcall
    refine ⟨hle, by omega, ?_⟩
    rw [size_eq_span he, Node.span]
    omega
  · have hsum := hrow.sum_span_le
    rw [sum_size_eq]
    omega

/-- A script with a call inside the arguments of another one, and a character of two bytes. -/
theorem entries_side_by_side_of_text :
    let text := "m.def('é', m.run());m.main()"
    let b : Bundle := ⟨Source.ofText text, (reading text.toList).root⟩
    b.root.Nested ∧ b.root.stop ≤ b.source.size ∧
      (entries {} b).Pairwise (fun e f => e.1.stop ≤ f.1.start) ∧ (entries {} b).length = 2 ∧
      ((records {} b).map Record.size).sum ≤ b.source.size := by
  intro text b
  obtain ⟨hnested, hsource, hlength⟩ :
      b.root.Nested ∧ b.root.stop ≤ b.source.size ∧ (entries {} b).length = 2 := by
    decide +kernel
  obtain ⟨-, -, hordered, -, hsum⟩ := entries_side_by_side {} b hnested hsource
  exact ⟨hnested, hsource, hordered, hlength, hsum⟩

end BundleManifest.Walker
