import BundleManifest.Proofs.Text.Utf8
import BundleManifest.Script.Node
import Mathlib.Data.List.Infix

/-!
# Spans between characters

The offsets of a script count bytes. Here is what a span of bytes means for the text.

* `Utf8.Boundary`: an offset that does not stand inside a character;
* `Source.exists_part`: the bytes between two boundaries are those of a part of the text, and are read
  as this part;
* `Node.Covers`: a node stands for a part of the text, which then is the text of the node; a node
  inside of it stands for a part of this part (`Node.Covers.infix`).
-/

namespace BundleManifest

open Script

/-- An offset into the bytes of a text stands at one of its ends or between two of its characters. -/
def Utf8.Boundary (text : List Char) (offset : Nat) : Prop :=
  ∃ before after, text = before ++ after ∧ (Utf8.encode before).length = offset

namespace Utf8

/-- A boundary stands behind some number of characters. -/
theorem boundary_iff {text : List Char} {offset : Nat} : Boundary text offset ↔
    ∃ k ∈ List.range (text.length + 1), (encode (text.take k)).length = offset := by
  constructor
  · rintro ⟨before, after, rfl, rfl⟩
    refine ⟨before.length, ?_, by rw [List.take_left]⟩
    rw [List.mem_range, List.length_append]
    omega
  · rintro ⟨k, -, hk⟩
    exact ⟨text.take k, text.drop k, (List.take_append_drop k text).symm, hk⟩

instance (text : List Char) (offset : Nat) : Decidable (Boundary text offset) :=
  decidable_of_iff _ boundary_iff.symm

/-- Of two beginnings of a text, the one with fewer bytes is a beginning of the other. -/
theorem prefix_of_length_encode_le {text s t : List Char} (hs : s <+: text) (ht : t <+: text)
    (h : (encode s).length ≤ (encode t).length) : s <+: t := by
  rcases List.prefix_or_prefix_of_prefix hs ht with hst | ⟨part, rfl⟩
  · exact hst
  · have hpart : encode part = [] := by
      rw [encode_append, List.length_append] at h
      exact List.length_eq_zero_iff.1 (by omega)
    rw [encode_injective (hpart.trans encode_nil.symm), List.append_nil]

end Utf8

namespace Script

namespace Source

theorem slice_ofText (text : String) (start stop : Nat) :
    (ofText text).slice start stop = (Utf8.encode text.toList).extract start stop := by
  rw [slice_eq, ofText]

/-- The bytes of a part of a text stand behind those of what is before it. -/
theorem slice_of_append {text : String} {before part after : List Char}
    (h : text.toList = before ++ part ++ after) :
    (ofText text).slice (Utf8.encode before).length (Utf8.encode (before ++ part)).length =
      Utf8.encode part := by
  rw [slice_ofText, h, Utf8.encode_append, Utf8.encode_append, List.append_assoc,
    List.extract_eq_take_drop, List.drop_left, List.length_append, Nat.add_sub_cancel_left,
    List.take_left]

theorem slice_eq_nil (s : Source) {start stop : Nat} (h : stop ≤ start) : s.slice start stop = [] :=
  List.length_eq_zero_iff.1 (by have := s.length_slice_le start stop; omega)

/-- What is read from the bytes of a text is this text. -/
theorem text_eq_of_slice {s : Source} {start stop : Nat} {part : List Char}
    (h : s.slice start stop = Utf8.encode part) : s.text start stop = String.ofList part := by
  rw [text, h, Utf8.decodeLossy_encode]

/-- Between two boundaries stands a part of the text, with its bytes and nothing else. -/
theorem exists_part {text : String} {start stop : Nat} (hstart : Utf8.Boundary text.toList start)
    (hstop : Utf8.Boundary text.toList stop) : ∃ before part after,
      text.toList = before ++ part ++ after ∧ (Utf8.encode before).length = start ∧
      (ofText text).slice start stop = Utf8.encode part ∧
      (ofText text).text start stop = String.ofList part := by
  obtain ⟨before, after, htext, rfl⟩ := hstart
  obtain ⟨before', after', htext', rfl⟩ := hstop
  -- What stands before one of the boundaries is the beginning of what stands before the other.
  have hpre : before <+: text.toList := ⟨after, htext.symm⟩
  have hpre' : before' <+: text.toList := ⟨after', htext'.symm⟩
  rcases List.prefix_or_prefix_of_prefix hpre hpre' with ⟨part, rfl⟩ | ⟨part, rfl⟩
  · have hslice := slice_of_append htext'
    exact ⟨before, part, after', htext', rfl, hslice, text_eq_of_slice hslice⟩
  · have hslice : (ofText text).slice (Utf8.encode (before' ++ part)).length
        (Utf8.encode before').length = Utf8.encode [] := by
      rw [slice_eq_nil _ (by simp), Utf8.encode_nil]
    exact ⟨before' ++ part, [], after, by rw [htext, List.append_nil], rfl, hslice,
      text_eq_of_slice hslice⟩

end Source

namespace Node

/-- A node stands for a part of a text: its span is that of the bytes of the part. -/
def Covers (text : List Char) (n : Node) (part : List Char) : Prop :=
  ∃ before after, text = before ++ part ++ after ∧ n.start = (Utf8.encode before).length ∧
    n.stop = (Utf8.encode (before ++ part)).length

/-- A node that stands for a part begins behind some number of characters. -/
theorem covers_iff {text : List Char} {n : Node} {part : List Char} : n.Covers text part ↔
    ∃ k ∈ List.range (text.length + 1), part <+: text.drop k ∧
      n.start = (Utf8.encode (text.take k)).length ∧
      n.stop = (Utf8.encode (text.take k ++ part)).length := by
  constructor
  · rintro ⟨before, after, rfl, hstart, hstop⟩
    refine ⟨before.length, ?_, ?_, ?_, ?_⟩
    · simp only [List.mem_range, List.length_append]
      omega
    · rw [List.append_assoc, List.drop_left]
      exact List.prefix_append _ _
    · rwa [List.append_assoc, List.take_left]
    · rwa [List.append_assoc, List.take_left]
  · rintro ⟨k, -, ⟨after, hafter⟩, hstart, hstop⟩
    refine ⟨text.take k, after, ?_, hstart, hstop⟩
    rw [List.append_assoc, hafter, List.take_append_drop]

instance (text : List Char) (n : Node) (part : List Char) : Decidable (n.Covers text part) :=
  decidable_of_iff _ covers_iff.symm

/-- A node between two boundaries stands for some part. -/
theorem exists_covers {text : List Char} {n : Node} (hstart : Utf8.Boundary text n.start)
    (hstop : Utf8.Boundary text n.stop) (hle : n.start ≤ n.stop) : ∃ part, n.Covers text part := by
  obtain ⟨before, rest, htext, hbefore⟩ := hstart
  obtain ⟨before', after, htext', hbefore'⟩ := hstop
  obtain ⟨part, rfl⟩ := Utf8.prefix_of_length_encode_le ⟨rest, htext.symm⟩ ⟨after, htext'.symm⟩
    (by rwa [hbefore, hbefore'])
  exact ⟨part, before, after, htext', hbefore.symm, hbefore'.symm⟩

/-- A node inside another one stands for a part of what this one stands for. -/
theorem Covers.infix {text part inner : List Char} {n m : Node} (h : n.Covers text part)
    (hm : m.Covers text inner) (hstart : n.start ≤ m.start) (hstop : m.stop ≤ n.stop) :
    inner <:+: part := by
  obtain ⟨before, after, htext, hn, hn'⟩ := h
  obtain ⟨before', after', htext', hm, hm'⟩ := hm
  rw [hn, hm] at hstart
  rw [hn', hm'] at hstop
  have hpre : before <+: text := ⟨part ++ after, by rw [htext, List.append_assoc]⟩
  have hpre' : before' <+: text := ⟨inner ++ after', by rw [htext', List.append_assoc]⟩
  obtain ⟨gap, rfl⟩ := Utf8.prefix_of_length_encode_le hpre hpre' hstart
  have hends := Utf8.prefix_of_length_encode_le ⟨after', htext'.symm⟩ ⟨after, htext.symm⟩ hstop
  rw [List.append_assoc, List.prefix_append_right_inj] at hends
  exact (List.suffix_append gap inner).isInfix.trans hends.isInfix

/-- The text of a node is the part that it stands for. -/
theorem Covers.text_eq {text : String} {n : Node} {part : List Char}
    (h : n.Covers text.toList part) : n.text (Source.ofText text) = String.ofList part := by
  obtain ⟨before, after, htext, hstart, hstop⟩ := h
  rw [Node.text, hstart, hstop]
  exact Source.text_eq_of_slice (Source.slice_of_append htext)

end Node

end Script

end BundleManifest
