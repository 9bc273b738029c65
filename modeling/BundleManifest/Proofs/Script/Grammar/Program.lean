import BundleManifest.Bundle
import BundleManifest.Proofs.Script.Grammar.Statement

/-!
# Where programs stand

Every rule of the grammar lays out its nodes if the goals in it are read by a reader that does; so the
reader of all goals does, by induction on how deep it may go (`laysOut_reader`). The statements of a
script then stand side by side from its beginning on, and so does the statement at fault, however it
is explained.

So the tree of any text has nested spans, and all its nodes begin and end between characters
(`nested_reading`, `boundary_reading`); in particular that of a bundle (`Bundle.spans_of_ofText`).

A reader that may go one level deeper reads with the rules of the grammar, and the goals in these with
the reader below it. That is the step of the induction. A reader that may not go any deeper is stuck,
and yields nothing that would have to be laid out.

* `laysOut_rule`: the step of the induction;
* `laid_statementsOf`: the statements up to the end of the script or to the fault;
* `laid_faultyStatement`: the statement at fault, with missing marks put in or unexpected text taken
  as a node;
* `laid_reading`: the nodes of the whole tree.
-/

namespace BundleManifest

namespace Script

open Script.Parser

variable {text : List Char} {a c start : Cursor} {read : Reader}

/-- If inner goals are laid out, so is the next outer one: this is the step from one bound to the
    next. -/
theorem laysOut_rule (hread : read.LaysOut text) : Reader.LaysOut text (rule read) := by
  intro goal c hc
  cases goal with
  | sequence semi => exact yields_sequence hread semi hc
  | expression level semi => exact yields_expression hread level semi hc
  | reference semi => exact yields_reference hread semi hc
  | construction semi => exact yields_constructor hread semi hc
  | operand semi => exact yields_operand hread semi hc
  | element => exact yields_element hread hc
  | statement => exact yields_statement hread hc

/-- Whatever the reader reads, it lays out. -/
theorem laysOut_reader (text : List Char) (depth : Nat) : (reader depth).LaysOut text := by
  induction depth with
  | zero => exact fun _ _ _ => .refuse
  | succ depth ih => exact laysOut_rule ih

/-- The statements stand side by side, up to the one at fault. -/
theorem laid_statementsFrom (depth fuel : Nat) (openEnd : Bool) {nodes : List Node}
    (h : Laid text a nodes.reverse c) :
    ∃ b, Laid text a (statementsFrom depth fuel c openEnd nodes).nodes b ∧
      ∀ fault ∈ (statementsFrom depth fuel c openEnd nodes).fault, fault.1 = b := by
  induction fuel generalizing c openEnd nodes with
  | zero => exact ⟨c, h, by simp [statementsFrom]⟩
  | succ fuel ih =>
    rw [statementsFrom]
    split
    · exact ⟨c, h, by simp⟩
    · next comments start far hbetween =>
      have hcomments := yields_betweenStatements openEnd h.place _ _ _ _ _ hbetween
      have hnodes : Laid text a (comments.reverse ++ nodes).reverse start := by
        rw [List.reverse_append, List.reverse_reverse]
        exact h.append hcomments
      dsimp only
      split
      · exact ⟨start, hnodes, by simp⟩
      · split
        · exact ⟨start, hnodes, by simp⟩
        · next p behind _ hstatement =>
          have hp := laysOut_reader text depth _ start hnodes.place _ _ _ _ _ hstatement
          refine ih _ ?_
          rw [List.reverse_cons]
          exact hnodes.append hp

/-- The statements are laid out up to the place where they end or the fault is. -/
theorem laid_statementsOf (text : List Char) :
    ∃ b, Laid text (Cursor.ofText text) (statementsOf text).nodes b ∧
      ∀ fault ∈ (statementsOf text).fault, fault.1 = b := by
  have hc := Cursor.at_ofText text
  rw [statementsOf]
  dsimp only
  split
  · -- The first line is a node of its own.
    have ht := ahead_trivia true hc
    refine laid_statementsFrom _ _ _ ?_
    rw [List.reverse_cons, List.reverse_reverse]
    exact ht.laid.append (.node ht.token (.gap (ht.token.skip _) (Cursor.offset_le_skip _ _)) _)
  · exact laid_statementsFrom _ _ _ (.nil hc)

/-! ## Faulty statements -/

/-- Unexpected text ends at a character, behind the place where it begins. -/
theorem at_endOfUnexpected (far : Cursor) (fuel : Nat) (hc : c.At text) :
    (Cursor.endOfUnexpected far fuel c).At text ∧
      c.offset ≤ (Cursor.endOfUnexpected far fuel c).offset := by
  induction fuel generalizing c with
  | zero => exact ⟨hc, Nat.le_refl _⟩
  | succ fuel ih =>
    rw [Cursor.endOfUnexpected]
    split
    · exact ⟨hc, Nat.le_refl _⟩
    · have ht := (ahead_trivia true hc).laid
      obtain ⟨hplace, hle⟩ := ih (ht.place.skip (Cursor.tokenLength _))
      have := ht.le
      have := Cursor.offset_le_skip (c.trivia true).token (Cursor.tokenLength (c.trivia true).token)
      exact ⟨hplace, by omega⟩

/-- Unexpected text is laid out as a node of its own. -/
theorem laid_unexpected (far : Cursor) (hstart : start.At text) :
    ∃ b, Laid text start [start.unexpected far] b := by
  obtain ⟨hplace, hle⟩ := at_endOfUnexpected far start.left (hstart.skip start.tokenLength)
  have := start.offset_le_skip start.tokenLength
  exact ⟨_, .node hstart (.gap hplace (by omega)) _⟩

/-- However a faulty statement is explained, it begins at its place. -/
theorem laid_faultyStatement (source : Source) (depth : Nat) (far : Cursor) (hstart : start.At text) :
    ∃ b, Laid text start [faultyStatement source depth start far] b := by
  have hskipped := laid_unexpected far hstart
  rw [faultyStatement]
  split
  · exact hskipped
  · next p behind _ hstatement =>
    have hp := laysOut_reader text depth _ start hstart _ _ _ _ _ hstatement
    split
    · exact hskipped
    · split
      · exact ⟨behind, hp⟩
      · exact hskipped

/-! ## Trees -/

/-- The statements of any text stand side by side from its beginning on. -/
theorem laid_reading (text : List Char) :
    ∃ b, Laid text (Cursor.ofText text) (reading text).root.children b := by
  obtain ⟨b, hnodes, hfault⟩ := laid_statementsOf text
  rw [reading]
  dsimp only
  split
  · exact ⟨b, hnodes⟩
  · next start far h =>
    obtain rfl := hfault _ h
    obtain ⟨b, hstatement⟩ :=
      laid_faultyStatement ⟨(Utf8.encode text).toArray⟩ (statementsOf text).depth
      far hnodes.place
    exact ⟨b, hnodes.append hstatement⟩

/-- A script covers the whole text, with the white space at both ends. -/
theorem span_reading (text : List Char) :
    (reading text).root.start = 0 ∧ (reading text).root.stop = (Utf8.encode text).length := by
  rw [reading]
  dsimp only
  split <;> exact ⟨rfl, List.size_toArray⟩

/-- The tree of any text has nested spans. -/
theorem nested_reading (text : List Char) : (reading text).root.Nested := by
  obtain ⟨b, h⟩ := laid_reading text
  obtain ⟨hstart, hstop⟩ := span_reading text
  obtain ⟨before, htext, hoffset⟩ := h.place
  -- No place is behind the end of the text.
  have hlength : b.offset ≤ (Utf8.encode text).length := by
    rw [htext, Utf8.encode_append, List.length_append]
    omega
  refine .intro (by omega) (fun n hn => ?_) h.row.ordered h.row.nested
  have := h.row.inside n hn
  omega

/-- Every node of the tree of any text begins and ends between characters. -/
theorem boundary_reading (text : List Char) :
    ∀ n ∈ (reading text).root.preorder, Utf8.Boundary text n.start ∧ Utf8.Boundary text n.stop := by
  obtain ⟨b, h⟩ := laid_reading text
  obtain ⟨hstart, hstop⟩ := span_reading text
  intro n hn
  rw [Node.preorder_eq] at hn
  rcases List.mem_cons.1 hn with rfl | hn
  · rw [hstart, hstop]
    exact ⟨⟨[], text, rfl, rfl⟩, ⟨text, [], (List.append_nil text).symm, rfl⟩⟩
  · exact h.boundaries n hn

end Script

/-- The tree of a bundle stands on the bytes of its text: its spans are nested, and its nodes begin
    and end between characters. -/
theorem Bundle.spans_of_ofText {text : String} {b : Bundle} (h : ofText text = .ok b) :
    b.source = Script.Source.ofText text ∧ b.root.Nested ∧ b.root.stop = b.source.size ∧
      ∀ n ∈ b.root.preorder, Utf8.Boundary text.toList n.start ∧
        Utf8.Boundary text.toList n.stop := by
  rw [ofText] at h
  split at h
  · cases h
    exact ⟨rfl, Script.nested_reading _, (Script.span_reading _).2.trans List.size_toArray.symm,
      Script.boundary_reading _⟩
  · cases h

end BundleManifest
