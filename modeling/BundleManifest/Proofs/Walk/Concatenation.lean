import BundleManifest.Proofs.Script.Grammar.Program
import BundleManifest.Proofs.Script.Moved
import BundleManifest.Proofs.Walk.Alike
import BundleManifest.Proofs.Walk.Content

/-!
# Bundles put together

Two bundles can be put one behind the other (`Bundle.append`): the tree of the whole has the
statements of the first one, and then those of the second one, moved by the length of the first one.
Its records are those of the first one and then those of the second one.

The reason is that a record depends on the bytes of its own call only, and not on where these stand
(`Walker.recordOf?_alike`). For the calls of the second bundle the place changes, and for those of the
first one it stays, since what is put behind a source does not change its bytes.

* `Bundle.IsProgram`: what is asked of the bundles; every script that is read has it
  (`isProgram_of_ofText`);
* `Walker.recordsIn_moved`: the search of moved trees finds the same records;
* `Walker.walk_append`: the records, the statements and the status of the whole, and that nothing
  outside a call matters for its record.
-/

namespace BundleManifest

open Script

variable {s s' : Source} {k : Nat} {place : Point → Point} {n : Node}

/-! ## A record depends on its call -/

/-- The parts of a tree stand inside its root. -/
theorem Script.Node.PartsInside.inside {root : Node} (h : root.PartsInside) :
    ∀ n ∈ root.preorder, root.start ≤ n.start ∧ n.stop ≤ root.stop := by
  induction root using Node.induction_parts with
  | step root ih =>
    intro n hn
    rw [Node.preorder_eq, List.mem_cons, Node.mem_preorderAll_iff] at hn
    rcases hn with rfl | ⟨c, hc, hn⟩
    · exact ⟨Nat.le_refl _, Nat.le_refl _⟩
    · have hin := h root root.self_mem_preorder c hc
      have hin' := ih c hc (fun m hm => h m (Node.mem_preorder_of_part hc hm)) n hn
      omega

/-- All nodes of a tree have the same bytes in another place if its root has. -/
theorem Script.Node.PartsInside.sameBytes (h : n.PartsInside)
    (hslice : s'.slice (n.start + k) (n.stop + k) = s.slice n.start n.stop) : n.SameBytes s s' k := by
  intro m hm
  obtain ⟨hstart, hstop⟩ := h.inside m hm
  rw [Source.slice_eq_extract_slice s hstart hstop, ← hslice,
    Source.slice_eq_extract_slice s' (Nat.add_le_add_right hstart k) (Nat.add_le_add_right hstop k),
    Nat.add_sub_add_right, Nat.add_sub_add_right]

/-- The search of moved trees finds the same records. -/
theorem Walker.recordsIn_moved (w : Walker) (place : Point → Point) (trees : List Node)
    (h : ∀ n ∈ trees, n.SameBytes s s' k) :
    w.recordsIn s' (trees.map (Node.moved k place)) = w.recordsIn s trees :=
  recordsIn_alike
    (List.forall₂_map_right_iff.2 (List.forall₂_same.2 fun n hn => (h n hn).alike place))

/-! ## Bundles -/

theorem Script.Node.kind_of_program (h : n.symbol = "program") : n.kind = .program := by
  rw [kind, h]
  rfl

theorem Script.symbol_reading (text : List Char) : (reading text).root.symbol = "program" := by
  rw [reading]
  dsimp only
  split <;> rfl

namespace Bundle

/-- The root of a bundle is a program, and all its nodes end inside the source. -/
structure IsProgram (b : Bundle) : Prop where
  kind : b.root.kind = .program
  inside : ∀ n ∈ b.root.preorder, n.stop ≤ b.source.size

/-- Two bundles, one behind the other. The points of the second one become others. -/
def append (b c : Bundle) (place : Point → Point) : Bundle where
  source := b.source.append c.source
  root := {
    symbol := "program", start := 0, stop := b.source.size + c.source.size, point := ⟨0, 0⟩
    children := b.root.children ++ c.root.children.map (Node.moved b.source.size place) }

/-- Every bundle that is read is a program. -/
theorem isProgram_of_ofText {text : String} {b : Bundle} (h : ofText text = .ok b) : b.IsProgram := by
  obtain ⟨-, hnested, hstop, -⟩ := spans_of_ofText h
  refine ⟨Script.Node.kind_of_program ?_, fun n hn => hstop ▸ (hnested.partsInside.inside n hn).2⟩
  rw [ofText] at h
  split at h
  · cases h
    exact symbol_reading _
  · cases h

/-- Two programs, one behind the other, are a program again. -/
theorem IsProgram.append {b c : Bundle} (hb : b.IsProgram) (hc : c.IsProgram)
    (place : Point → Point) :
    (b.append c place).IsProgram := by
  refine ⟨Script.Node.kind_of_program rfl, fun n hn => ?_⟩
  have hsize : (b.append c place).source.size = b.source.size + c.source.size :=
    Source.size_append _ _
  rw [hsize]
  rw [Node.preorder_eq, List.mem_cons, Node.mem_preorderAll_iff] at hn
  rcases hn with rfl | ⟨m, hm, hn⟩
  · exact Nat.le_refl _
  rcases List.mem_append.1 hm with hm | hm
  · have := hb.inside n (Node.mem_preorder_of_part hm hn)
    omega
  · obtain ⟨m', hm', rfl⟩ := List.mem_map.1 hm
    rw [Node.preorder_moved] at hn
    obtain ⟨n', hn', rfl⟩ := List.mem_map.1 hn
    have := hc.inside n' (Node.mem_preorder_of_part hm' hn')
    rw [Node.stop_moved]
    omega

theorem statementCount_append (b c : Bundle) (place : Point → Point) :
    (b.append c place).statementCount = b.statementCount + c.statementCount := by
  simp only [statementCount, append, Node.namedChildren, List.filter_append, List.length_append,
    List.filter_map, List.length_map]
  simp [Function.comp_def]

end Bundle

namespace Walker

variable {w : Walker} {b c : Bundle}

/-- The records of two bundles, one behind the other, are those of the first one and then those of the
    second one. -/
theorem records_append (place : Point → Point) (hb : b.IsProgram) (hc : c.IsProgram) :
    w.records (b.append c place) = w.records b ++ w.records c := by
  have hfirst : w.recordsIn (b.source.append c.source) b.root.children =
      w.recordsIn b.source b.root.children := by
    have hsame : ∀ n ∈ b.root.children, n.SameBytes b.source (b.source.append c.source) 0 :=
      fun n hn m hm => Source.slice_append_left _ _
        (hb.inside m (Node.mem_preorder_of_part hn hm))
    have hmoved :
        w.recordsIn (b.source.append c.source) (b.root.children.map (Node.moved 0 id)) = _ :=
      w.recordsIn_moved id _ hsame
    rwa [List.map_congr_left fun n _ => Node.moved_zero n, List.map_id'] at hmoved
  have hsecond : w.recordsIn (b.source.append c.source)
      (c.root.children.map (Node.moved b.source.size place)) = w.recordsIn c.source c.root.children :=
    w.recordsIn_moved place _ fun _ _ _ _ => Source.slice_append_right _ _ _ _
  rw [records_eq_recordsIn w hb.kind, records_eq_recordsIn w hc.kind, ← hfirst, ← hsecond,
    ← recordsIn_append]
  exact records_eq_recordsIn w (hb.append hc place).kind

/-- Two programs, one behind the other, are a program whose records are those of the first one and
    then those of the second one. It has the statements of both, so that there is nothing to decode in
    it if there is nothing to decode in either.

    The reason is that a node has the record that its own bytes give it: it is the same in every other
    source that has these bytes in some place. All scripts that are read are programs, and all parts
    of their nodes stand inside the nodes. -/
theorem walk_append (w : Walker) :
    (∀ (b c : Bundle) (place : Point → Point), b.IsProgram → c.IsProgram →
      (b.append c place).IsProgram ∧
      (b.append c place).statementCount = b.statementCount + c.statementCount ∧
      w.records (b.append c place) = w.records b ++ w.records c ∧
      ((w.walk (b.append c place)).status = .emptyInput ↔
        (w.walk b).status = .emptyInput ∧ (w.walk c).status = .emptyInput)) ∧
    (∀ (s s' : Source) (n : Node) (k : Nat) (place : Point → Point), n.PartsInside →
      s'.slice (n.start + k) (n.stop + k) = s.slice n.start n.stop →
      w.recordOf? s' (n.moved k place) = w.recordOf? s n) ∧
    ∀ (text : String) (b : Bundle), Bundle.ofText text = .ok b → b.IsProgram ∧
      b.root.PartsInside := by
  refine ⟨fun b c place hb hc => ?_, fun s s' n k place hinside hslice => ?_, fun text b h => ?_⟩
  · refine ⟨hb.append hc place, Bundle.statementCount_append b c place,
      records_append place hb hc, ?_⟩
    rw [status_walk_eq_emptyInput_iff, status_walk_eq_emptyInput_iff, status_walk_eq_emptyInput_iff,
      Bundle.statementCount_append, Nat.add_eq_zero_iff]
  · exact recordOf?_alike ((hinside.sameBytes hslice).alike place)
  · exact ⟨Bundle.isProgram_of_ofText h, (Bundle.spans_of_ofText h).2.1.partsInside⟩

/-- A script that consists of two others has the records that the trees of these have when they are
    put together. -/
theorem walk_append_of_texts :
    let first := "m.def('/a$1',function()\x7b'é'\x7d);"
    let second := "m.main('/b$2')"
    let read (text : String) : Bundle := ⟨Source.ofText text, (reading text.toList).root⟩
    let place (p : Point) : Point := ⟨p.row, p.column + 31⟩
    Bundle.ofText first = .ok (read first) ∧ Bundle.ofText second = .ok (read second) ∧
      (read first).IsProgram ∧ (read second).IsProgram ∧
      records {} ((read first).append (read second) place) =
        records {} (read first) ++ records {} (read second) ∧
      records {} (read (first ++ second)) = records {} ((read first).append (read second) place) := by
  intro first second read place
  let define : Record := {
    kind := .define
    size := 30
    path := "/a$1"
    identity := { packageName := "a", version := "1" }
    content := "\x7b'é'\x7d" }
  let main : Record :=
    { kind := .main, size := 14, path := "/b$2", identity := { packageName := "b", version := "2" } }
  have hfirst : Bundle.ofText first = .ok (read first) := by
    rw [Bundle.ofText]
    exact if_pos (by decide +kernel)
  have hsecond : Bundle.ofText second = .ok (read second) := by
    rw [Bundle.ofText]
    exact if_pos (by decide +kernel)
  obtain ⟨happend, -, hread⟩ := walk_append {}
  obtain ⟨hb, -⟩ := hread _ _ hfirst
  obtain ⟨hc, -⟩ := hread _ _ hsecond
  have hrecords := (happend _ _ place hb hc).2.2.1
  have hwhole :
      records {} (read (first ++ second)) = records {} (read first) ++ records {} (read second) := by
    have hread : records {} (read first) = [define] := by decide +kernel
    have hread' : records {} (read second) = [main] := by decide +kernel
    rw [hread, hread']
    decide +kernel
  exact ⟨hfirst, hsecond, hb, hc, hrecords, hwhole.trans hrecords.symm⟩

end Walker

end BundleManifest
