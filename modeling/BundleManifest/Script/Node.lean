import BundleManifest.Script.Source

/-!
# Syntax trees

A script is read into a tree of *nodes*. A node has the name of the construct it is, the span of bytes
it covers, and its parts in source order; comments are parts as well. A part may have a *role* in its
node, such as the callee of a call.

* `Node.kind`: the constructs that the decoding of a bundle tells apart;
* `Node.preorder`: every node of a tree, a node before its parts;
* `Node.unwrap`: a node without the parentheses around it.
-/

namespace BundleManifest.Script

/-- A place in a script: the line, and the byte in it, both counted from zero. -/
structure Point where
  /-- The line. -/
  row : Nat
  /-- The byte in the line. -/
  column : Nat
  deriving DecidableEq, Repr, Inhabited

/-- What a part is to its node. -/
inductive Role where
  /-- What a call calls. -/
  | callee
  /-- The arguments of a call. -/
  | arguments
  /-- What a member belongs to. -/
  | object
  /-- The name of a member. -/
  | property
  /-- The body of a function, a class or a loop. -/
  | body
  deriving DecidableEq, Repr

/-- The constructs that the decoding of a bundle tells apart. -/
inductive NodeKind where
  | program
  | call
  | member
  | parenthesized
  | function
  | statementBlock
  | string
  | identifier
  | propertyIdentifier
  | comment
  | hashBang
  | other
  deriving DecidableEq, Repr

/-- The kind of the construct with a given name. -/
def NodeKind.ofSymbol : String → NodeKind
  | "program" => program
  | "call_expression" => call
  | "member_expression" => member
  | "parenthesized_expression" => parenthesized
  | "function_expression" => function
  | "function" => function
  | "statement_block" => statementBlock
  | "string" => string
  | "identifier" => identifier
  | "property_identifier" => propertyIdentifier
  | "comment" => comment
  | "hash_bang_line" => hashBang
  | _ => other

/-- A node of a syntax tree. -/
structure Node where
  /-- The name of the construct, or the text of a mark or a keyword. -/
  symbol : String
  /-- Whether the node is a construct of its own, and not a mark or a keyword. -/
  named : Bool := true
  /-- Whether the node stands for something that the script lacks. -/
  missing : Bool := false
  /-- What the node is to the node it is a part of. -/
  role : Option Role := none
  /-- The offset of its first byte. -/
  start : Nat
  /-- The offset after its last byte. -/
  stop : Nat
  /-- The place of its first byte. -/
  point : Point
  /-- Its parts, in source order. -/
  children : List Node := []
  deriving Repr, Inhabited

namespace Node

/-- The kind of a node. -/
def kind (n : Node) : NodeKind :=
  NodeKind.ofSymbol n.symbol

/-- Whether a node is a comment. -/
def isComment (n : Node) : Bool :=
  n.kind = .comment

/-- The parts that are constructs of their own. -/
def namedChildren (n : Node) : List Node :=
  n.children.filter (·.named)

/-- The constructs among the parts, without the comments. -/
def operands (n : Node) : List Node :=
  n.namedChildren.filter (!·.isComment)

/-- The first part with a role. -/
def child? (n : Node) (role : Role) : Option Node :=
  n.children.find? (·.role = some role)

/-- The same node as a part with a role. -/
def withRole (n : Node) (role : Role) : Node :=
  { n with role := some role }

/-- The source text of a node. -/
def text (n : Node) (source : Source) : String :=
  source.text n.start n.stop

/-- The number of bytes that a node covers. -/
def span (n : Node) : Nat :=
  n.stop - n.start

mutual

/-- The number of nodes of a tree. -/
def size : Node → Nat
  | ⟨_, _, _, _, _, _, _, children⟩ => sizeAll children + 1

/-- The number of nodes of several trees. -/
def sizeAll : List Node → Nat
  | [] => 0
  | n :: rest => n.size + sizeAll rest

end

theorem size_eq (n : Node) : n.size = sizeAll n.children + 1 := by
  cases n; rfl

@[simp]
theorem sizeAll_append (s t : List Node) : sizeAll (s ++ t) = sizeAll s + sizeAll t := by
  induction s with
  | nil => simp [sizeAll]
  | cons n s ih => simp [sizeAll, ih]; omega

mutual

/-- Every node of a tree: a node, and then the nodes of its parts from left to right. -/
def preorder : Node → List Node
  | ⟨symbol, named, missing, role, start, stop, point, children⟩ =>
    ⟨symbol, named, missing, role, start, stop, point, children⟩ :: preorderAll children

/-- Every node of several trees, tree by tree. -/
def preorderAll : List Node → List Node
  | [] => []
  | n :: rest => n.preorder ++ preorderAll rest

end

theorem preorder_eq (n : Node) : n.preorder = n :: preorderAll n.children := by
  cases n; rfl

theorem preorderAll_singleton (n : Node) : preorderAll [n] = n.preorder := by
  rw [preorderAll, preorderAll, List.append_nil]

theorem preorderAll_append (s t : List Node) :
    preorderAll (s ++ t) = preorderAll s ++ preorderAll t := by
  induction s with
  | nil => rfl
  | cons n s ih => rw [List.cons_append, preorderAll, preorderAll, ih, List.append_assoc]

/-- A part is smaller than its node, which bounds every recursion into the parts. -/
theorem size_lt_of_mem {n c : Node} (h : c ∈ n.children) : c.size < n.size := by
  have aux : ∀ l : List Node, c ∈ l → c.size ≤ sizeAll l := by
    intro l hl
    induction l with
    | nil => simp at hl
    | cons d l ih =>
      rcases List.mem_cons.1 hl with rfl | hl
      · simp [sizeAll]
      · have := ih hl
        simp [sizeAll]
        omega
  have := aux _ h
  rw [size_eq n]
  omega

/-- Descends from a node to the single operand of a pair of parentheses, as long as there is one. -/
def unwrap (n : Node) : Node :=
  if n.kind = .parenthesized then
    match _heq : n.operands with
    | [inner] => unwrap inner
    | _ => n
  else n
termination_by n.size
decreasing_by
  apply size_lt_of_mem
  have : inner ∈ n.operands := by simp [_heq]
  exact (List.mem_filter.1 (List.mem_filter.1 this).1).1

end Node

end BundleManifest.Script
