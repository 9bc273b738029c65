import BundleManifest.Proofs.Script.Alike

/-!
# Trees at another place

A tree can be *moved* to another place of a script: all its offsets grow by the same number, and its
points become others. If its bytes are the same at the new place (`Node.SameBytes`), it is read there
as it was (`Node.SameBytes.alike`).

The bytes of a tree stay the same when something is put behind the source
(`Source.slice_append_left`), and are found again behind what is put before it
(`Source.slice_append_right`).

Points are changed by a function that is not looked into: no reading of a tree asks for them, apart
from errors, and a script with an error is not walked. Moving is by recursion on the tree, and each
field of a moved node is a field of the node, moved.
-/

namespace BundleManifest.Script

/-! ## Sources put together -/

namespace Source

/-- Two sources, one behind the other. -/
def append (s t : Source) : Source :=
  ⟨s.bytes ++ t.bytes⟩

theorem size_append (s t : Source) : (s.append t).size = s.size + t.size :=
  Array.size_append

variable {start stop : Nat}

/-- A slice of the first source is a slice of both together. -/
theorem slice_append_left (s t : Source) (h : stop ≤ s.size) :
    (s.append t).slice start stop = s.slice start stop := by
  have hlength : stop ≤ s.bytes.toList.length := h
  rw [slice_eq, slice_eq, append, Array.toList_append, List.extract_eq_take_drop,
    List.extract_eq_take_drop]
  by_cases hle : start ≤ stop
  · rw [List.drop_append_of_le_length (by omega),
      List.take_append_of_le_length (by rw [List.length_drop]; omega)]
  · rw [Nat.sub_eq_zero_of_le (by omega), List.take_zero, List.take_zero]

/-- A slice of the second source stands behind all bytes of the first one. -/
theorem slice_append_right (s t : Source) (start stop : Nat) :
    (s.append t).slice (start + s.size) (stop + s.size) = t.slice start stop := by
  have hdrop : (s.bytes.toList ++ t.bytes.toList).drop (start + s.bytes.size) =
      t.bytes.toList.drop start := by
    rw [Nat.add_comm, ← Array.length_toList, List.drop_length_add_append]
  rw [slice_eq, slice_eq, append, Array.toList_append, List.extract_eq_take_drop,
    List.extract_eq_take_drop, size, hdrop, Nat.add_sub_add_right]

/-- The bytes of a span inside another one are among the bytes of this one. -/
theorem slice_eq_extract_slice (s : Source) {outer outer' : Nat} (hstart : outer ≤ start)
    (hstop : stop ≤ outer') :
    s.slice start stop = (s.slice outer outer').extract (start - outer) (stop - outer) := by
  simp only [slice_eq, List.extract_eq_take_drop]
  rw [List.drop_take, List.drop_drop, List.take_take, Nat.add_sub_cancel' hstart]
  congr 1
  omega

end Source

/-! ## Moving a tree -/

namespace Node

mutual

/-- A tree whose offsets have grown by `k`, and whose points are changed by `place`. -/
def moved (k : Nat) (place : Point → Point) : Node → Node
  | ⟨symbol, named, missing, role, start, stop, point, children⟩ =>
    ⟨symbol, named, missing, role, start + k, stop + k, place point, movedAll k place children⟩

/-- Several trees that are moved. -/
def movedAll (k : Nat) (place : Point → Point) : List Node → List Node
  | [] => []
  | n :: rest => n.moved k place :: movedAll k place rest

end

variable {k : Nat} {place : Point → Point} {n m : Node}

theorem movedAll_eq_map (l : List Node) : movedAll k place l = l.map (moved k place) := by
  induction l with
  | nil => rfl
  | cons n l ih => rw [movedAll, ih, List.map_cons]

@[simp]
theorem symbol_moved (n : Node) : (n.moved k place).symbol = n.symbol := by
  cases n; rfl

@[simp]
theorem named_moved (n : Node) : (n.moved k place).named = n.named := by
  cases n; rfl

@[simp]
theorem role_moved (n : Node) : (n.moved k place).role = n.role := by
  cases n; rfl

@[simp]
theorem start_moved (n : Node) : (n.moved k place).start = n.start + k := by
  cases n; rfl

@[simp]
theorem stop_moved (n : Node) : (n.moved k place).stop = n.stop + k := by
  cases n; rfl

@[simp]
theorem children_moved (n : Node) : (n.moved k place).children = n.children.map (moved k place) := by
  cases n
  exact movedAll_eq_map _

@[simp]
theorem kind_moved (n : Node) : (n.moved k place).kind = n.kind := by
  rw [kind, symbol_moved, kind]

@[simp]
theorem span_moved (n : Node) : (n.moved k place).span = n.span := by
  rw [span, start_moved, stop_moved, Nat.add_sub_add_right, span]

/-- A tree that is moved by nothing is the same. -/
theorem moved_zero (n : Node) : n.moved 0 id = n := by
  induction n using induction_parts with
  | step n ih =>
    obtain ⟨symbol, named, missing, role, start, stop, point, children⟩ := n
    rw [moved, movedAll_eq_map, List.map_congr_left ih, List.map_id']
    rfl

/-- The nodes of a moved tree are those of the tree, moved. -/
theorem preorder_moved (n : Node) : (n.moved k place).preorder = n.preorder.map (moved k place) := by
  induction n using induction_parts with
  | step n ih =>
    have hparts :
        ∀ l : List Node, (∀ c ∈ l, (c.moved k place).preorder = c.preorder.map (moved k place)) →
        preorderAll (l.map (moved k place)) = (preorderAll l).map (moved k place) := by
      intro l hl
      induction l with
      | nil => rfl
      | cons c l ihl =>
        obtain ⟨hc, hl⟩ := List.forall_mem_cons.1 hl
        rw [List.map_cons, preorderAll, preorderAll, List.map_append, hc, ihl hl]
    rw [preorder_eq, preorder_eq, children_moved, hparts _ ih, List.map_cons]

/-! ## Reading a moved tree -/

/-- The nodes of a tree have the same bytes in another source, `k` bytes further on. -/
def SameBytes (s s' : Source) (k : Nat) (n : Node) : Prop :=
  ∀ m ∈ n.preorder, s'.slice (m.start + k) (m.stop + k) = s.slice m.start m.stop

variable {s s' : Source}

theorem SameBytes.part (h : n.SameBytes s s' k) (hm : m ∈ n.children) : m.SameBytes s s' k :=
  fun _ hd => h _ (mem_preorder_of_part hm hd)

/-- A tree is alike to itself at the new place. -/
theorem SameBytes.alike (place : Point → Point) (h : n.SameBytes s s' k) :
    n.Alike s s' (n.moved k place) := by
  induction n using induction_parts with
  | step n ih =>
    have htext : (n.moved k place).text s' = n.text s := by
      rw [text, text, Source.text, Source.text, start_moved, stop_moved, h n n.self_mem_preorder]
    refine .intro (symbol_moved n) (named_moved n) htext (span_moved n) ?_ ?_
    · rw [children_moved, List.map_map]
      exact List.map_congr_left fun c _ => role_moved c
    · rw [children_moved, List.forall₂_map_right_iff, List.forall₂_same]
      exact fun c hc => ih c hc (h.part hc)

end Node

end BundleManifest.Script
