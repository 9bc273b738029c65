import BundleManifest.Proofs.Script.Source
import BundleManifest.Proofs.Script.Span
import BundleManifest.Script.Cursor

/-!
# Where the nodes of a script stand

A script is read from its beginning to its end, and what has been read lies behind: the nodes that
were made between two places of the script stand side by side there, in the order in which they were
made, with nested spans, and they begin and end between characters (`Laid`).

A node keeps its offsets only, and the text is not part of it. What connects the two is the cursor: it
has the offset and the rest of the text, and `Cursor.At` says that they fit. All nodes get their
offsets from cursors, so that each of them begins and ends between two characters, and the order of
the nodes is that of the cursors.

* `Laid.append`: nodes that were made one after the other;
* `Laid.node`: a construct of all the nodes between two places;
* `laid_trivia`: the comments before a token.
-/

namespace BundleManifest.Script

variable {text : List Char} {a b c : Cursor} {m n : Node} {l r : List Node}

namespace Cursor

/-- A cursor is a place of a text: what follows is the rest of the text. -/
def At (text : List Char) (c : Cursor) : Prop :=
  ∃ before, text = before ++ c.rest ∧ c.offset = (Utf8.encode before).length

theorem at_ofText (text : List Char) : (ofText text).At text :=
  ⟨[], rfl, rfl⟩

theorem At.boundary (h : c.At text) : Utf8.Boundary text c.offset := by
  obtain ⟨before, htext, hoffset⟩ := h
  exact ⟨before, c.rest, htext, hoffset.symm⟩

/-- Skipping characters leads to another place of the same text. -/
theorem At.skip (h : c.At text) (k : Nat) : (c.skip k).At text := by
  induction k generalizing c with
  | zero => exact h
  | succ k ih =>
    obtain ⟨before, htext, hoffset⟩ := h
    rw [Cursor.skip]
    split
    · exact ⟨before, htext, hoffset⟩
    · next x rest hrest =>
      refine ih ⟨before ++ [x], ?_, ?_⟩
      · rw [htext, hrest, List.append_assoc, List.singleton_append]
      · simp only [hoffset, Utf8.encode_append, Utf8.encode_cons, Utf8.encode_nil, List.append_nil,
          List.length_append, String.length_utf8EncodeChar]

/-- Skipping never goes back. -/
theorem offset_le_skip (c : Cursor) (k : Nat) : c.offset ≤ (c.skip k).offset := by
  induction k generalizing c with
  | zero => exact Nat.le_refl _
  | succ k ih =>
    rw [skip]
    split
    · exact Nat.le_refl _
    · refine Nat.le_trans ?_ (ih _)
      exact Nat.le_add_right _ _

end Cursor

theorem Node.mem_preorderAll (h : n ∈ l) : n ∈ Node.preorderAll l := by
  obtain ⟨s, t, rfl⟩ := List.append_of_mem h
  simp [Node.preorderAll_append, Node.preorderAll, Node.preorder_eq n]

/-- Nodes that stand side by side do so between the beginning of the first and the end of the last of
    them. -/
theorem Row.between {first last : Node} {start stop : Nat} (h : Row start stop l)
    (hfirst : l.head? = some first)
    (hlast : l.getLast? = some last) : Row first.start last.stop l := by
  refine ⟨h.nested, fun n hn => ⟨?_, ?_⟩, h.ordered⟩
  · obtain ⟨others, rfl⟩ := List.head?_eq_some_iff.1 hfirst
    have hle := (h.nested first List.mem_cons_self).start_le_stop
    rcases List.mem_cons.1 hn with rfl | hn
    · exact Nat.le_refl _
    · exact Nat.le_trans hle ((List.pairwise_cons.1 h.ordered).1 n hn)
  · obtain ⟨others, rfl⟩ := List.getLast?_eq_some_iff.1 hlast
    have hle := (h.nested last (by simp)).start_le_stop
    rcases List.mem_append.1 hn with hn | hn
    · exact Nat.le_trans ((List.pairwise_append.1 h.ordered).2.2 n hn last List.mem_cons_self) hle
    · rw [List.mem_singleton.1 hn]

/-- Nodes that stand side by side may be gathered into one node. -/
theorem Row.gather {first last : Node} {start stop : Nat} (h : Row start stop (l ++ m.children ++ r))
    (hfirst : m.children.head? = some first) (hlast : m.children.getLast? = some last)
    (hstart : m.start = first.start) (hstop : m.stop = last.stop) :
    Row start stop (l ++ [m] ++ r) := by
  obtain ⟨hlm, hr, hlmr⟩ := List.pairwise_append.1 h.ordered
  obtain ⟨hl, -, hlm⟩ := List.pairwise_append.1 hlm
  have hmem : first ∈ m.children := List.mem_of_head? hfirst
  have hmem' : last ∈ m.children := List.mem_of_getLast? hlast
  have hgathered : m.Nested := by
    have hrow : Row start stop m.children :=
      h.sublist ((List.sublist_append_right _ _).trans (List.sublist_append_left _ _))
    have hparts : Row m.start m.stop m.children := hstart ▸ hstop ▸ hrow.between hfirst hlast
    have hle := (hparts.nested first hmem).start_le_stop
    have hinside := hparts.inside first hmem
    exact .intro (by omega) hparts.inside hparts.ordered hparts.nested
  refine ⟨fun n hn => ?_, fun n hn => ?_, ?_⟩
  · simp only [List.mem_append, List.mem_singleton] at hn
    rcases hn with (hn | rfl) | hn
    · exact h.nested n (by simp [hn])
    · exact hgathered
    · exact h.nested n (by simp [hn])
  · simp only [List.mem_append, List.mem_singleton] at hn
    rcases hn with (hn | rfl) | hn
    · exact h.inside n (by simp [hn])
    · rw [hstart, hstop]
      exact ⟨(h.inside first (by simp [hmem])).1, (h.inside last (by simp [hmem'])).2⟩
    · exact h.inside n (by simp [hn])
  · refine List.pairwise_append.2
      ⟨List.pairwise_append.2 ⟨hl, List.pairwise_singleton _ _, ?_⟩, hr, ?_⟩
    · intro k hk n hn
      rw [List.mem_singleton.1 hn, hstart]
      exact hlm k hk first hmem
    · intro k hk n hn
      rcases List.mem_append.1 hk with hk | hk
      · exact hlmr k (List.mem_append_left _ hk) n hn
      · rw [List.mem_singleton.1 hk, hstop]
        exact hlmr last (List.mem_append_right _ hmem') n hn

/-- Nodes that stand side by side between two places of a text, all of them and their parts between
    characters. -/
structure Laid (text : List Char) (a : Cursor) (nodes : List Node) (b : Cursor) : Prop where
  place : b.At text
  le : a.offset ≤ b.offset
  row : Row a.offset b.offset nodes
  boundaries : ∀ n ∈ Node.preorderAll nodes, Utf8.Boundary text n.start ∧ Utf8.Boundary text n.stop

namespace Laid

/-- Where nothing is read there may be white space between two places. -/
theorem gap (hb : b.At text) (hle : a.offset ≤ b.offset) : Laid text a [] b where
  place := hb
  le := hle
  row := ⟨by simp, by simp, List.Pairwise.nil⟩
  boundaries := by simp [Node.preorderAll]

theorem nil (ha : a.At text) : Laid text a [] a :=
  gap ha (Nat.le_refl _)

/-- Nodes up to a place and nodes from there on stand side by side. -/
theorem append (hl : Laid text a l b) (hr : Laid text b r c) : Laid text a (l ++ r) c where
  place := hr.place
  le := Nat.le_trans hl.le hr.le
  row := by
    refine ⟨fun n hn => ?_, fun n hn => ?_,
      List.pairwise_append.2 ⟨hl.row.ordered, hr.row.ordered, ?_⟩⟩
    · exact (List.mem_append.1 hn).elim (hl.row.nested n) (hr.row.nested n)
    · have := hl.le
      have := hr.le
      rcases List.mem_append.1 hn with hn | hn
      · have := hl.row.inside n hn
        omega
      · have := hr.row.inside n hn
        omega
    · intro m hm n hn
      exact Nat.le_trans (hl.row.inside m hm).2 (hr.row.inside n hn).1
  boundaries n hn := by
    rw [Node.preorderAll_append] at hn
    exact (List.mem_append.1 hn).elim (hl.boundaries n) (hr.boundaries n)

/-- A place further on is one between which and the first the nodes stand as well. -/
theorem extend (h : Laid text a l b) (hc : c.At text) (hle : b.offset ≤ c.offset) :
    Laid text a l c := by
  rw [← List.append_nil l]
  exact h.append (gap hc hle)

/-- The nodes need not be made. -/
theorem forget (h : Laid text a l b) : Laid text a [] b :=
  gap h.place h.le

/-- A construct of all the nodes between two places. -/
theorem node (ha : a.At text) (h : Laid text a l b) (symbol : String) :
    Laid text a [a.nodeTo b symbol l] b where
  place := h.place
  le := h.le
  row := by
    have hnested : (a.nodeTo b symbol l).Nested :=
      .intro h.le h.row.inside h.row.ordered h.row.nested
    exact Row.singleton hnested
  boundaries n hn := by
    rw [Node.preorderAll_singleton, Node.preorder_eq] at hn
    rcases List.mem_cons.1 hn with rfl | hn
    · exact ⟨ha.boundary, h.place.boundary⟩
    · exact h.boundaries n hn

/-- A node may be given another name and another role. -/
theorem relabel (h : Laid text a [n] b) (hstart : m.start = n.start) (hstop : m.stop = n.stop)
    (hchildren : m.children = n.children) : Laid text a [m] b where
  place := h.place
  le := h.le
  row := by
    obtain ⟨hle, hle', hn, -⟩ := Row.cons_iff.1 h.row
    have hm : m.Nested := by
      have hrow := hn.row
      rw [← hstart, ← hstop, ← hchildren] at hrow
      exact .intro (hstart ▸ hstop ▸ hn.start_le_stop) hrow.inside hrow.ordered hrow.nested
    exact Row.cons_iff.2 ⟨hstart ▸ hle, hstop ▸ hle', hm, ⟨by simp, by simp, List.Pairwise.nil⟩⟩
  boundaries k hk := by
    have hboundaries := h.boundaries
    rw [Node.preorderAll_singleton, Node.preorder_eq] at hboundaries hk
    rcases List.mem_cons.1 hk with rfl | hk
    · rw [hstart, hstop]
      exact hboundaries n List.mem_cons_self
    · rw [hchildren] at hk
      exact hboundaries k (List.mem_cons_of_mem _ hk)

/-- Nodes that stand side by side may be gathered into one node. -/
theorem gather {first last : Node} (h : Laid text a (l ++ m.children ++ r) b)
    (hfirst : m.children.head? = some first) (hlast : m.children.getLast? = some last)
    (hstart : m.start = first.start) (hstop : m.stop = last.stop) :
    Laid text a (l ++ [m] ++ r) b where
  place := h.place
  le := h.le
  row := h.row.gather hfirst hlast hstart hstop
  boundaries n hn := by
    have hboundaries := h.boundaries
    simp only [Node.preorderAll_append, List.mem_append] at hboundaries hn
    rw [Node.preorderAll_singleton, Node.preorder_eq, List.mem_cons] at hn
    have hmem := Node.mem_preorderAll (List.mem_of_head? hfirst)
    have hmem' := Node.mem_preorderAll (List.mem_of_getLast? hlast)
    rcases hn with (hn | rfl | hn) | hn
    · exact hboundaries n (.inl (.inl hn))
    · rw [hstart, hstop]
      exact ⟨(hboundaries first (.inl (.inr hmem))).1, (hboundaries last (.inl (.inr hmem'))).2⟩
    · exact hboundaries n (.inl (.inr hn))
    · exact hboundaries n (.inr hn)

theorem withRole (h : Laid text a [n] b) (role : Role) : Laid text a [n.withRole role] b :=
  h.relabel rfl rfl rfl

theorem mark (ha : a.At text) (hb : b.At text) (hle : a.offset ≤ b.offset) (symbol : String) :
    Laid text a [a.markTo b symbol] b :=
  (node ha (gap hb hle) symbol).relabel rfl rfl rfl

end Laid

/-! ## Comments -/

open Cursor

/-- A comment covers the text up to the place behind it. -/
theorem laid_comment? {page : Bool} {comment : Node} (hc : c.At text)
    (h : c.comment? page = some (comment, b)) : Laid text c [comment] b := by
  -- Behind the white space, the comment takes some characters.
  have hnode (k size : Nat) (symbol : String) :
      Laid text c [(c.skip k).nodeTo ((c.skip k).skip size) symbol []] ((c.skip k).skip size) :=
    (Laid.gap (hc.skip k) (c.offset_le_skip k)).append
      (.node (hc.skip k) (.gap ((hc.skip k).skip size) (Cursor.offset_le_skip _ _)) symbol)
  rw [comment?] at h
  generalize (if page then Lexeme.pageComment c.rest else (0, 0)) = found at h
  dsimp only at h
  split at h
  · cases h
    exact hnode _ _ _
  · split at h
    · cases h
      exact hnode _ _ _
    · cases h

/-- The comments before a token stand behind the place where the reading began, and the token stands
    behind them. -/
structure Ahead (text : List Char) (c : Cursor) (t : Cursor.Trivia) : Prop where
  comments : Laid text c t.comments t.behind
  gap : Laid text t.behind [] t.token

namespace Ahead

variable {t : Cursor.Trivia}

/-- The comments and then the token. -/
theorem laid (h : Ahead text c t) : Laid text c t.comments t.token := by
  rw [← List.append_nil t.comments]
  exact h.comments.append h.gap

theorem token (h : Ahead text c t) : t.token.At text :=
  h.gap.place

/-- The comments and then the token, if it is a mark of some characters. -/
theorem laid_mark (h : Ahead text c t) (k : Nat) (symbol : String) :
    Laid text c (t.comments ++ [t.token.markTo (t.token.skip k) symbol]) (t.token.skip k) :=
  h.laid.append (.mark h.token (h.token.skip k) (t.token.offset_le_skip k) symbol)

/-- Where the comments have been read, and white space follows. -/
theorem ofBlank (h : Laid text a l.reverse c) : Ahead text a ⟨l.reverse, c, c.skipBlank⟩ where
  comments := h
  gap := .gap (h.place.skip _) (c.offset_le_skip _)

end Ahead

/-- What is skipped before a token is white space and comments. -/
theorem ahead_trivia (page : Bool) (hc : c.At text) : Ahead text c (c.trivia page) := by
  suffices h : ∀ (fuel : Nat) (b : Cursor) (l : List Node), Laid text c l.reverse b →
      Ahead text c (trivia.go page fuel b l) from h _ _ [] (.nil hc)
  intro fuel
  induction fuel with
  | zero => exact fun b l h => .ofBlank h
  | succ fuel ih =>
    intro b l h
    rw [trivia.go]
    split
    · next comment stop hcomment =>
      refine ih _ _ ?_
      rw [List.reverse_cons]
      exact h.append (laid_comment? h.place hcomment)
    · exact .ofBlank h

end BundleManifest.Script
