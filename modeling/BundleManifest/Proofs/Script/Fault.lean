import BundleManifest.Proofs.Script.Source
import BundleManifest.Proofs.Script.Span
import BundleManifest.Script.SyntaxError

/-!
# The error for a faulty tree

The error for a tree is about its first faulty node, in preorder. In a tree with nested spans the
nodes begin in this order, too (`Node.Nested.pairwise_start`): a part begins no earlier than its node,
and the parts of a node stand side by side. So no fault of the tree begins to the left of the one that
is told.

What an error says is determined by the node it is about: the line and the column are those of the
node, counted from one, and the text has three forms, for what is missing, for unexpected text, and
for the end of the script. The forms exclude each other, so that the text tells which of them it was.

* `SyntaxError.Describes`: what an error says about a node;
* `Node.FirstFault`: the fault before which there is no other one;
* `SyntaxError.describes_firstFault`: the error for a tree describes its first fault, which is the
  leftmost one, and a tree without faults is described by its root.
-/

namespace BundleManifest.Script

variable {root n m : Node} {source : Source}

/-! ## The order of the nodes -/

namespace Node

/-- Every node stands inside the span of the root. -/
theorem Nested.inside (h : root.Nested) (hn : n ∈ root.preorder) :
    root.start ≤ n.start ∧ n.stop ≤ root.stop := by
  induction h with
  | @intro root _ hinside _ _ ih =>
    rw [preorder_eq, List.mem_cons, mem_preorderAll_iff] at hn
    rcases hn with rfl | ⟨c, hc, hn⟩
    · exact ⟨Nat.le_refl _, Nat.le_refl _⟩
    · have := hinside c hc
      have := ih c hc hn
      omega

/-- The nodes of trees side by side begin in preorder if those of every tree do. -/
theorem pairwise_start_preorderAll {l : List Node} (hnested : ∀ c ∈ l, c.Nested)
    (hordered : l.Pairwise fun c d => c.stop ≤ d.start)
    (hparts : ∀ c ∈ l, c.preorder.Pairwise fun a b => a.start ≤ b.start) :
    (preorderAll l).Pairwise fun a b => a.start ≤ b.start := by
  induction l with
  | nil => exact List.Pairwise.nil
  | cons c l ih =>
    obtain ⟨hc, hl⟩ := List.forall_mem_cons.1 hnested
    obtain ⟨hright, hrest⟩ := List.pairwise_cons.1 hordered
    obtain ⟨hfirst, hothers⟩ := List.forall_mem_cons.1 hparts
    refine List.pairwise_append.2 ⟨hfirst, ih hl hrest hothers, fun a ha b hb => ?_⟩
    -- A node of the first tree ends before the trees to its right begin.
    obtain ⟨d, hd, hb⟩ := mem_preorderAll_iff.1 hb
    have := (hc.of_mem_preorder ha).start_le_stop
    have := hc.inside ha
    have := (hl d hd).inside hb
    have := hright d hd
    omega

/-- In preorder, no node begins to the left of the nodes before it. -/
theorem Nested.pairwise_start (h : root.Nested) :
    root.preorder.Pairwise fun a b => a.start ≤ b.start := by
  induction h with
  | @intro root hle hinside hordered hparts ih =>
    have hroot : root.Nested := .intro hle hinside hordered hparts
    rw [preorder_eq]
    refine List.pairwise_cons.2 ⟨fun m hm => ?_, pairwise_start_preorderAll hparts hordered ih⟩
    refine (hroot.inside ?_).1
    rw [preorder_eq]
    exact List.mem_cons_of_mem _ hm

/-! ## The first fault -/

/-- A node is at fault if it is unexpected text or stands for something that is missing. -/
def IsFault (n : Node) : Prop :=
  n.symbol = "ERROR" ∨ n.missing

instance (n : Node) : Decidable n.IsFault :=
  inferInstanceAs (Decidable (_ ∨ _))

/-- The first fault of a tree: no node before it in preorder is at fault. -/
def FirstFault (root n : Node) : Prop :=
  n.IsFault ∧ ∃ before after, root.preorder = before ++ n :: after ∧ ∀ m ∈ before, ¬m.IsFault

theorem isFaulty_iff : n.isFaulty ↔ n.IsFault := by
  rw [isFaulty, Bool.or_eq_true, decide_eq_true_iff, faultSymbol, IsFault]

/-- The nodes are looked at in preorder. -/
theorem firstFault_eq (root : Node) : root.firstFault = (root.preorder.find? isFaulty).getD root := by
  rw [firstFault, visit_singleton]

/-- If a node is at fault, the one that is found is the first of them. -/
theorem firstFault_of_exists (h : ∃ n ∈ root.preorder, n.IsFault) :
    root.FirstFault root.firstFault := by
  obtain ⟨n, hn, hfault⟩ := h
  obtain ⟨n, hfind⟩ := Option.isSome_iff_exists.1 (List.find?_isSome.2 ⟨n, hn, isFaulty_iff.2 hfault⟩)
  obtain ⟨hfaulty, before, after, hpreorder, hbefore⟩ := List.find?_eq_some_iff_append.1 hfind
  rw [firstFault_eq, hfind, Option.getD_some]
  refine ⟨isFaulty_iff.1 hfaulty, before, after, hpreorder, fun m hm hm' => ?_⟩
  have := hbefore m hm
  rw [isFaulty_iff.2 hm'] at this
  exact Bool.false_ne_true this

/-- If no node is at fault, the root stands for the fault. -/
theorem firstFault_of_forall (h : ∀ n ∈ root.preorder, ¬n.IsFault) : root.firstFault = root := by
  have hfind : root.preorder.find? isFaulty = none :=
    List.find?_eq_none.2 fun n hn hfaulty => h n hn (isFaulty_iff.1 hfaulty)
  rw [firstFault_eq, hfind, Option.getD_none]

/-- The first fault of a tree is the leftmost one. -/
theorem FirstFault.start_le (h : root.FirstFault n) (hnested : root.Nested) (hm : m ∈ root.preorder)
    (hfault : m.IsFault) : n.start ≤ m.start := by
  obtain ⟨-, before, after, hpreorder, hbefore⟩ := h
  have hordered := hnested.pairwise_start
  rw [hpreorder] at hm hordered
  rcases List.mem_append.1 hm with hm | hm
  · exact absurd hfault (hbefore m hm)
  · rcases List.mem_cons.1 hm with rfl | hm
    · exact Nat.le_refl _
    · exact (List.pairwise_cons.1 (List.pairwise_append.1 hordered).2.1).1 m hm

end Node

/-! ## What is said about a node -/

/-- The beginning of the text of a node, as far as it is shown. -/
def Node.opening (n : Node) (source : Source) : List Char :=
  (n.text source).toList.take 40

/-- If a node stands for a part of the text, the characters of this part are counted. -/
theorem Node.Covers.opening {text : String} {part : List Char} (h : n.Covers text.toList part) :
    n.opening (.ofText text) = part.take 40 := by
  rw [Node.opening, h.text_eq, String.toList_ofList]

/-- What an error says about a node: its place, counted from one, and what is missing or not
    expected. -/
structure SyntaxError.Describes (e : SyntaxError) (source : Source) (n : Node) : Prop where
  line : e.line = n.point.row + 1
  column : e.column = n.point.column + 1
  missing : e.text = "Missing '" ++ n.symbol ++ "'" ↔ n.missing
  ended : n.missing = false →
    (e.text = "Unexpected end of input" ↔ ∀ c ∈ n.opening source, Text.isBlank c)
  unexpected : n.missing = false → ¬ (∀ c ∈ n.opening source, Text.isBlank c) →
    e.text = "Unexpected token near " ++ Text.quoted (String.ofList (Text.strip (n.opening source)))

namespace Node

theorem excerpt_eq_empty_iff : n.excerpt source = "" ↔ ∀ c ∈ n.opening source, Text.isBlank c := by
  rw [excerpt, String.ofList_eq_empty_iff, Text.strip_eq_nil_iff]
  rfl

theorem complaint_of_missing (h : n.missing) : n.complaint source = "Missing '" ++ n.symbol ++ "'" :=
  if_pos h

theorem complaint_of_blank (h : n.missing = false) (hblank : ∀ c ∈ n.opening source, Text.isBlank c) :
    n.complaint source = "Unexpected end of input" := by
  rw [complaint, h, if_neg Bool.false_ne_true]
  exact if_pos (excerpt_eq_empty_iff.2 hblank)

/-- Other unexpected text is quoted, without the white space around it. -/
theorem complaint_of_not_blank (h : n.missing = false)
    (hblank : ¬∀ c ∈ n.opening source, Text.isBlank c) :
    n.complaint source =
      "Unexpected token near " ++ Text.quoted (String.ofList (Text.strip (n.opening source))) := by
  rw [complaint, h, if_neg Bool.false_ne_true]
  exact if_neg fun hempty => hblank (excerpt_eq_empty_iff.1 hempty)

end Node

/-- That something is missing and that it was not expected are said in different words. -/
theorem missing_ne_unexpected (s t : String) : "Missing '" ++ s ++ "'" ≠ "Unexpected " ++ t := by
  intro h
  have := congrArg (fun s => s.toList.head?) h
  simp at this

theorem ended_ne_near (s : String) : "Unexpected token near " ++ s ≠ "Unexpected end of input" := by
  intro h
  have := congrArg (fun s => s.toList[11]?) h
  simp at this

namespace SyntaxError

theorem text_ofTree (source : Source) (root : Node) :
    (ofTree source root).text = root.firstFault.complaint source := rfl

/-- The error for a tree describes the node that is looked for. -/
theorem describes_ofTree (source : Source) (root : Node) :
    (ofTree source root).Describes source root.firstFault := by
  refine ⟨rfl, rfl, ?_, fun hmissing => ?_, fun hmissing hblank => ?_⟩
  · rw [text_ofTree]
    by_cases hmissing : root.firstFault.missing = true
    · exact iff_of_true (Node.complaint_of_missing hmissing) hmissing
    · refine iff_of_false ?_ hmissing
      rw [Bool.not_eq_true] at hmissing
      by_cases hblank : ∀ c ∈ root.firstFault.opening source, Text.isBlank c
      · rw [Node.complaint_of_blank hmissing hblank]
        exact (missing_ne_unexpected _ "end of input").symm
      · rw [Node.complaint_of_not_blank hmissing hblank]
        exact (missing_ne_unexpected _ ("token near " ++ _)).symm
  · rw [text_ofTree]
    by_cases hblank : ∀ c ∈ root.firstFault.opening source, Text.isBlank c
    · exact iff_of_true (Node.complaint_of_blank hmissing hblank) hblank
    · refine iff_of_false ?_ hblank
      rw [Node.complaint_of_not_blank hmissing hblank]
      exact ended_ne_near _
  · exact Node.complaint_of_not_blank hmissing hblank

/-- The error for a tree with nested spans describes the first fault of the tree in preorder, and no
    fault begins to the left of it. Without any fault the root is described. Of a node that stands for
    a part of the text, as many characters of this part are shown as the error shows at most. -/
theorem describes_firstFault (source : Source) (root : Node) (hnested : root.Nested) :
    ((∃ n ∈ root.preorder, n.IsFault) → ∃ n, root.FirstFault n ∧
      (ofTree source root).Describes source n ∧
      ∀ m ∈ root.preorder, m.IsFault → n.start ≤ m.start) ∧
    ((∀ n ∈ root.preorder, ¬n.IsFault) → (ofTree source root).Describes source root) ∧
    ∀ (text : String) (n : Node) (part : List Char), source = .ofText text →
    n.Covers text.toList part →
      n.opening source = part.take 40 := by
  refine ⟨fun hfault => ?_, fun hnone => ?_, fun text n part hsource hcovers => ?_⟩
  · have hfirst := Node.firstFault_of_exists hfault
    exact ⟨_, hfirst, describes_ofTree source root, fun m hm hm' => hfirst.start_le hnested hm hm'⟩
  · have hdescribes := describes_ofTree source root
    rwa [Node.firstFault_of_forall hnone] at hdescribes
  · rw [hsource]
    exact hcovers.opening

/-- A call that is not closed, as unexpected text with a mark missing behind it. -/
theorem describes_firstFault_of_open_call :
    let source : Source := .ofText "é( "
    let call : Node :=
      { symbol := "ERROR", start := 0, stop := 3, point := ⟨0, 0⟩,
        children := [{ symbol := "identifier", start := 0, stop := 2, point := ⟨0, 0⟩ }] }
    let root : Node :=
      { symbol := "program", start := 0, stop := 4, point := ⟨0, 0⟩,
        children :=
        [call, { symbol := ")", missing := true, start := 4, stop := 4, point := ⟨0, 4⟩ }] }
    root.Nested ∧ (∃ n ∈ root.preorder, n.IsFault) ∧
      (ofTree source root).text = "Unexpected token near 'é('" ∧
      ∃ n, root.FirstFault n ∧ (ofTree source root).Describes source n ∧
        ∀ m ∈ root.preorder, m.IsFault → n.start ≤ m.start := by
  intro source call root
  have hnested : root.Nested := by decide
  have hfault : ∃ n ∈ root.preorder, n.IsFault :=
    ⟨call, by simp [root, Node.preorder_eq, Node.preorderAll], .inl rfl⟩
  have htext : (ofTree source root).text = "Unexpected token near 'é('" := by decide +kernel
  exact ⟨hnested, hfault, htext, (describes_firstFault source root hnested).1 hfault⟩

end SyntaxError

end BundleManifest.Script
