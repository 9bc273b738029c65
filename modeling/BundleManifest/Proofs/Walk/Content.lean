import BundleManifest.Proofs.Script.Source
import BundleManifest.Proofs.Walk.Span

/-!
# The bodies of modules

The content of a module definition is cut out of the script: it is the part of the text between the
braces of the factory function, with the braces, and nothing is lost or put in on the way through the
bytes (`Walker.content_eq_body`). This needs nodes that begin and end between characters, and parts
that stand inside their nodes.

A block is a node like every other one, so that it begins and ends between characters; its bytes are
those of a part of the text, and reading these gives the part back. That the part stands inside the
call is a matter of nested spans.
-/

namespace BundleManifest

open Script

/-- The parts of every node of a tree stand inside the node. -/
def Script.Node.PartsInside (root : Node) : Prop :=
  ∀ n ∈ root.preorder, ∀ c ∈ n.children, n.start ≤ c.start ∧ c.stop ≤ n.stop

theorem Script.Node.Nested.partsInside {root : Node} (h : root.Nested) : root.PartsInside :=
  fun _ hn c hc => (h.of_mem_preorder hn).row.inside c hc

/-- Every node of a tree begins and ends between characters of the text. -/
def Script.Node.OnBoundaries (text : List Char) (root : Node) : Prop :=
  ∀ n ∈ root.preorder, Utf8.Boundary text n.start ∧ Utf8.Boundary text n.stop

instance (root : Node) : Decidable root.PartsInside :=
  inferInstanceAs (Decidable (∀ n ∈ root.preorder, ∀ c ∈ n.children, _))

instance (text : List Char) (root : Node) : Decidable (root.OnBoundaries text) :=
  inferInstanceAs (Decidable (∀ n ∈ root.preorder, _))

namespace Walker

variable {root call body : Node}

/-- The block of an argument of a call is a node of the tree and stands inside the call. -/
theorem block_inside {i : Nat} (hinside : root.PartsInside) (hcall : call ∈ root.preorder)
    (hbody : (call.argumentNodes[i]?).bind Node.block? = some body) :
    body ∈ root.preorder ∧ call.start ≤ body.start ∧ body.stop ≤ call.stop := by
  obtain ⟨factory, hfactory, hbody⟩ := Option.bind_eq_some_iff.1 hbody
  obtain ⟨-, hbody, -⟩ := Node.block?_eq_some_iff.1 hbody
  have hfactory := List.mem_of_getElem? hfactory
  rw [Node.argumentNodes] at hfactory
  -- Down from the call to its arguments, to the factory among them, and to its body.
  split at hfactory
  · cases hfactory
  · next arguments harguments =>
    have hbody : body ∈ factory.children := List.mem_of_find?_eq_some hbody
    have hfactory : factory ∈ arguments.children :=
      (List.mem_filter.1 (List.mem_filter.1 hfactory).1).1
    have harguments : arguments ∈ call.children := List.mem_of_find?_eq_some harguments
    have harguments' := Node.mem_preorder_of_mem_children hcall harguments
    have hfactory' := Node.mem_preorder_of_mem_children harguments' hfactory
    have h₁ := hinside call hcall arguments harguments
    have h₂ := hinside arguments harguments' factory hfactory
    have h₃ := hinside factory hfactory' body hbody
    exact ⟨Node.mem_preorder_of_mem_children hfactory' hbody, by omega, by omega⟩

/-- The content of an entry that defines a module is the body of its second argument. -/
theorem content_of_mem_entries {w : Walker} {b : Bundle} {e : Node × Record}
    (hcontent : w.extraction.includeContent = true) (he : e ∈ w.entries b)
    (hkind : e.2.kind = .define) :
    e.2.content = (((e.1.argumentNodes[1]?).bind Node.block?).map (·.text b.source)).getD "" := by
  obtain ⟨-, hrecord⟩ := of_mem_entries he
  obtain ⟨r, hclassify, hbuild⟩ := Option.bind_eq_some_iff.1 hrecord
  rw [Extraction.content_of_build hbuild hkind hcontent, Node.factoryBody_eq, Registration.argument?,
    Classifier.arguments_of_classify hclassify]

/-- Every record of a walk is one of the entries. -/
theorem exists_entry {w : Walker} {b : Bundle} {record : Record} (h : record ∈ (w.walk b).records) :
    ∃ call, (call, record) ∈ w.entries b := by
  have hrecord : record ∈ (w.entries b).map Prod.snd := by
    rw [map_snd_entries]
    rw [walk] at h
    split at h
    · cases h
    · exact h
  obtain ⟨⟨call, _⟩, he, rfl⟩ := List.mem_map.1 hrecord
  exact ⟨call, he⟩

/-- In a bundle over the bytes of a text, whose nodes begin and end between characters and whose parts
    stand inside their nodes, each record of the walk that defines a module belongs to a call in the
    tree, and its content depends on the second argument of this call, comments not counted:

    * if there is none, or it is no function expression with a block as its body, the content is
      empty;
    * otherwise the bytes of the content are the bytes of the block. The block stands inside the call,
      so these are at most as many as the size of the record; and the content is the part of the text
      that begins at the block, so it has no replacement characters but those of the text. -/
theorem content_eq_body (w : Walker) (text : String) (root : Node)
    (hcontent : w.extraction.includeContent = true) (hboundaries : root.OnBoundaries text.toList)
    (hinside : root.PartsInside) :
    let b : Bundle := ⟨Source.ofText text, root⟩
    (∀ record ∈ (w.walk b).records, ∃ call, (call, record) ∈ w.entries b) ∧
    ∀ call record, (call, record) ∈ w.entries b → record.kind = .define →
      call ∈ root.preorder ∧
      ((call.argumentNodes[1]?).bind Node.block? = none → record.content = "") ∧
      ∀ body, (call.argumentNodes[1]?).bind Node.block? = some body →
        Utf8.encode record.content.toList = b.source.slice body.start body.stop ∧
        call.start ≤ body.start ∧ body.stop ≤ call.stop ∧
        ((Utf8.encode record.content.toList).length : Int) ≤ record.size ∧
        ∃ before after, text.toList = before ++ record.content.toList ++ after ∧
          (Utf8.encode before).length = body.start := by
  intro b
  refine ⟨fun record h => exists_entry h, fun call record he hkind => ?_⟩
  have hcall : call ∈ root.preorder := by
    have hvisit := (of_mem_entries he).1
    rwa [Node.visit_eq, Node.preorderAll, Node.preorderAll, List.append_nil] at hvisit
  have hbody := content_of_mem_entries hcontent he hkind
  refine ⟨hcall, fun hnone => ?_, fun body hsome => ?_⟩
  · rw [hbody, hnone]
    rfl
  · obtain ⟨hmem, hstart, hstop⟩ := block_inside hinside hcall hsome
    obtain ⟨hfirst, hlast⟩ := hboundaries body hmem
    obtain ⟨before, part, after, htext, hbefore, hslice, hpart⟩ :=
      Source.exists_part hfirst hlast
    have hcontent : record.content.toList = part := by
      rw [hbody, hsome, Option.map_some, Option.getD_some, Node.text, hpart, String.toList_ofList]
    rw [hcontent]
    refine ⟨hslice.symm, hstart, hstop, ?_, before, after, htext, hbefore⟩
    -- The block is not longer than the call that it stands in.
    have hlength := (Source.ofText text).length_slice_le body.start body.stop
    have hsize : record.size = ((call.stop - call.start : Nat) : Int) := size_eq_span he
    rw [← hslice, hsize]
    omega

/-- A module with a comment before its factory, and characters of several bytes before and inside
    it. -/
theorem content_eq_body_of_text :
    let text := "'é';m.def('ü',/*ß*/function()\x7b'😀'\x7d)"
    let root := (reading text.toList).root
    let b : Bundle := ⟨Source.ofText text, root⟩
    root.OnBoundaries text.toList ∧ root.PartsInside ∧
      ((entries {} b).map fun e => (e.2.kind, e.2.content)) = [(.define, "\x7b'😀'\x7d")] ∧
      ∀ call record body, (call, record) ∈ entries {} b → record.kind = .define →
        (call.argumentNodes[1]?).bind Node.block? = some body →
        Utf8.encode record.content.toList = b.source.slice body.start body.stop := by
  intro text root b
  obtain ⟨hboundaries, hinside, hentries⟩ : root.OnBoundaries text.toList ∧ root.PartsInside ∧
      ((entries {} b).map fun e => (e.2.kind, e.2.content)) = [(.define, "\x7b'😀'\x7d")] := by
    decide +kernel
  refine ⟨hboundaries, hinside, hentries, fun call record body he hkind hbody => ?_⟩
  exact (((content_eq_body {} text root rfl hboundaries hinside).2 call record he hkind).2.2 body
    hbody).1

end Walker

end BundleManifest
