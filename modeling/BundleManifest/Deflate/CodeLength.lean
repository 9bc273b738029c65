/-!
# Lengths of prefix codes

A prefix code gives a symbol the fewer bits the more often it occurs. The two lightest trees are
joined until one is left; of two trees of equal weight the lower one is lighter. The length of a code
is limited, and codes beyond the limit are shortened at the cost of others.
-/

namespace BundleManifest.Deflate

/-- A tree on the heap: its weight, its height and its number. -/
structure Weighted where
  /-- How often its symbols occur. -/
  weight : Nat
  /-- Its height. -/
  height : Nat
  /-- Its number: a symbol, or a number beyond all symbols for a joined tree. -/
  node : Nat
  deriving Repr, Inhabited

/-- Whether a tree comes before another one on the heap. -/
def Weighted.before (a b : Weighted) : Bool :=
  a.weight < b.weight || (a.weight = b.weight && a.height ≤ b.height)

/-- Moves the tree at a place of a heap down to where it belongs. -/
def sink (heap : Array Weighted) (v : Weighted) : Nat → Nat → Array Weighted
  | 0, k => heap.setIfInBounds k v
  | fuel + 1, k =>
    let left := 2 * k + 1
    if left < heap.size then
      let right := left + 1
      let child :=
        if right < heap.size ∧ (heap.getD right v).before (heap.getD left v) then right else left
      let c := heap.getD child v
      if v.before c then heap.setIfInBounds k v
      else sink (heap.setIfInBounds k c) v fuel child
    else heap.setIfInBounds k v

/-- Puts a tree at the top of a heap. -/
def sinkTop (heap : Array Weighted) (v : Weighted) : Array Weighted :=
  sink heap v heap.size 0

/-- A heap of some trees. -/
def heapOf (items : Array Weighted) : Array Weighted :=
  (List.range (items.size / 2)).foldr
    (fun k heap => sink heap (heap.getD k default) heap.size k) items

/-- The trees in the order in which they are taken from the heap, each with the number of the tree
    that it becomes part of, and with the root at the end. `next` is the number of the next joined
    tree. -/
def joins : Nat → Nat → Array Weighted → List (Weighted × Nat) → List (Weighted × Nat)
  | 0, _, _, acc => acc.reverse
  | fuel + 1, next, heap, acc =>
    match heap[0]? with
    | none => acc.reverse
    | some a =>
      if heap.size = 1 then ((a, next) :: acc).reverse
      else
        let rest := sinkTop heap.pop (heap.getD (heap.size - 1) a)
        let b := rest.getD 0 a
        let joined : Weighted := ⟨a.weight + b.weight, max a.height b.height + 1, next⟩
        joins fuel (next + 1) (sinkTop rest joined) ((b, next) :: (a, next) :: acc)

/-- The depths of the trees below a root, given in the opposite order of `joins`, at most `limit`. The
    second component counts the trees that would be deeper. -/
def depths (limit : Nat) (order : List (Weighted × Nat)) (room : Nat) : Array Nat × Nat :=
  match order with
  | [] => (Array.replicate room 0, 0)
  | _ :: rest =>
    rest.foldl (fun (depth, excess) (tree, parent) =>
      let d := depth.getD parent 0 + 1
      if limit < d then (depth.setIfInBounds tree.node limit, excess + 1)
      else (depth.setIfInBounds tree.node d, excess)) (Array.replicate room 0, 0)

/-- Makes room for codes that are too long: a code of less than the greatest length becomes one bit
    longer, and one of those takes its place beside it. -/
def rebalance (limit : Nat) : Nat → Array Nat → Array Nat
  | 0, counts => counts
  | excess + 1, counts =>
    let bits := ((List.range limit).reverse.find? fun b => 0 < counts.getD b 0).getD 0
    let counts := counts.modify bits (· - 1)
    let counts := counts.modify (bits + 1) (· + 2)
    rebalance limit excess (counts.modify limit (· - 1))

/-- The lengths of the codes of symbols with given weights, at most `limit` bits. A symbol without
    weight has no code. -/
def codeLengths (limit : Nat) (weights : Array Nat) : Array Nat :=
  let n := weights.size
  let leaves := ((List.range n).filter fun s => 0 < weights.getD s 0).map fun s =>
    (⟨weights.getD s 0, 0, s⟩ : Weighted)
  let order := joins (n + 1) n (heapOf leaves.toArray) []
  let (depth, excess) := depths limit order.reverse (2 * n + 1)
  let symbols := (order.filter (·.1.node < n)).map (·.1.node)
  if excess = 0 then
    symbols.foldl (fun a s => a.setIfInBounds s (depth.getD s 0)) (Array.replicate n 0)
  else
    let counts :=
      symbols.foldl (fun a s => a.modify (depth.getD s 0) (· + 1)) (Array.replicate (limit + 1) 0)
    let counts := rebalance limit ((excess + 1) / 2) counts
    let lengths := ((List.range (limit + 1)).reverse.filter (0 < ·)).flatMap fun b =>
      List.replicate (counts.getD b 0) b
    (symbols.zip lengths).foldl (fun a (s, b) => a.setIfInBounds s b) (Array.replicate n 0)

end BundleManifest.Deflate
