import BundleManifest.Proofs.Registration
import Mathlib.Data.List.Forall2
import Mathlib.Data.Option.Basic

/-!
# Trees that are read alike

What the decoding of a bundle asks of a tree is what its nodes are, how they are put together, and
which text they cover. Two trees over two sources that agree in this are *alike* (`Node.Alike`): where
they stand makes no difference. What a node is to the one it is a part of counts for the parts only,
so that a tree may become a part of another one.

Every reading of alike trees has the same answer, or alike ones:

* `Alike.child?`, `Alike.operands`, `Alike.argumentNodes`, `Alike.unwrap`: the nodes that are asked
  for;
* `Alike.value?`, `Alike.factoryBody`, `Alike.registryMethod?`: what is read from the source.
-/

namespace BundleManifest.Script.Node

variable {n n' m : Node}

/-! ## Inside parentheses -/

theorem mem_children_of_operands_eq {inner : Node} (h : n.operands = [inner]) : inner ∈ n.children :=
  mem_children_of_mem_operands (h ▸ List.mem_singleton_self inner)

/-- Parentheses around a single operand come off. -/
theorem unwrap_of_operands {inner : Node} (hkind : n.kind = .parenthesized)
    (h : n.operands = [inner]) :
    n.unwrap = inner.unwrap := by
  rw [unwrap, if_pos hkind]
  split
  · next inner' heq =>
    rw [h] at heq
    rw [(List.cons.inj heq).1]
  · next hne => exact absurd h (hne inner)

/-- What is no pair of parentheses around a single operand stays. -/
theorem unwrap_of_forall_ne (h : n.kind = .parenthesized → ∀ inner, n.operands ≠ [inner]) :
    n.unwrap = n := by
  rw [unwrap]
  split
  · next hkind =>
    split
    · next inner heq => exact absurd heq (h hkind inner)
    · rfl
  · rfl

/-- What holds of a node that stays as it is without parentheses, and of parentheses if it holds of
    the single operand inside them, holds of every node. -/
theorem unwrap_induction {motive : Node → Prop}
    (stay : ∀ n : Node, (n.kind = .parenthesized → ∀ inner, n.operands ≠ [inner]) → motive n)
    (descend : ∀ n inner : Node, n.kind = .parenthesized → n.operands = [inner] → motive inner →
      motive n)
    (n : Node) : motive n := by
  induction n using induction_parts with
  | step n ih =>
    by_cases h : n.kind = .parenthesized ∧ ∃ inner, n.operands = [inner]
    · obtain ⟨hkind, inner, hinner⟩ := h
      exact descend n inner hkind hinner (ih inner (mem_children_of_operands_eq hinner))
    · exact stay n fun hkind inner hinner => h ⟨hkind, inner, hinner⟩

/-! ## Alike trees -/

/-- Two trees over two sources are the same constructs in the same order, and every node of the one
    covers the text, and as many bytes, as its counterpart in the other. -/
inductive Alike (s s' : Source) : Node → Node → Prop
  | intro {n n' : Node} (symbol : n'.symbol = n.symbol) (named : n'.named = n.named)
      (text : n'.text s' = n.text s) (span : n'.span = n.span)
      (roles : n'.children.map role = n.children.map role)
      (parts : List.Forall₂ (Alike s s') n.children n'.children) : Alike s s' n n'

namespace Alike

variable {s s' : Source}

theorem symbol : n.Alike s s' n' → n'.symbol = n.symbol
  | intro h _ _ _ _ _ => h

theorem named : n.Alike s s' n' → n'.named = n.named
  | intro _ h _ _ _ _ => h

theorem text : n.Alike s s' n' → n'.text s' = n.text s
  | intro _ _ h _ _ _ => h

theorem span : n.Alike s s' n' → n'.span = n.span
  | intro _ _ _ h _ _ => h

theorem roles : n.Alike s s' n' → n'.children.map role = n.children.map role
  | intro _ _ _ _ h _ => h

theorem parts : n.Alike s s' n' → List.Forall₂ (Alike s s') n.children n'.children
  | intro _ _ _ _ _ h => h

theorem kind (h : n.Alike s s' n') : n'.kind = n.kind := by
  rw [Node.kind, h.symbol, Node.kind]

theorem isComment (h : n.Alike s s' n') : n'.isComment = n.isComment := by
  rw [Node.isComment, h.kind, Node.isComment]

/-- What a node is to another one does not count. -/
theorem withRole (h : n.Alike s s' n') (r : Role) : (n.withRole r).Alike s s' n' :=
  intro h.symbol h.named h.text h.span h.roles h.parts

/-! ### The nodes that are asked for -/

theorem namedChildren (h : n.Alike s s' n') :
    List.Forall₂ (Alike s s') n.namedChildren n'.namedChildren :=
  List.rel_filter (fun _ _ hc => Bool.eq_iff_iff.1 hc.named.symm) h.parts

/-- As the same parts are comments, the operands are alike, too. -/
theorem operands (h : n.Alike s s' n') : List.Forall₂ (Alike s s') n.operands n'.operands :=
  List.rel_filter (fun _ _ hc => by simp only [hc.isComment]) h.namedChildren

/-- The first parts with a role are alike, or there is none in either tree. -/
theorem child? (h : n.Alike s s' n') (r : Role) :
    Option.Rel (Alike s s') (n.child? r) (n'.child? r) := by
  have hfind : ∀ l l' : List Node, l'.map role = l.map role → List.Forall₂ (Alike s s') l l' →
      Option.Rel (Alike s s') (l.find? (·.role = some r)) (l'.find? (·.role = some r)) := by
    intro l l' hroles hl
    induction hl with
    | nil => exact .none
    | cons hc hl ih =>
      obtain ⟨hrole, hroles⟩ := List.cons.inj hroles
      rw [List.find?_cons, List.find?_cons, hrole]
      split
      · exact .some hc
      · exact ih hroles
  exact hfind _ _ h.roles h.parts

/-- The arguments of calls that are alike are alike. -/
theorem argumentNodes (h : n.Alike s s' n') :
    List.Forall₂ (Alike s s') n.argumentNodes n'.argumentNodes := by
  rw [Node.argumentNodes, Node.argumentNodes]
  have harguments := h.child? .arguments
  generalize n.child? .arguments = a, n'.child? .arguments = a' at harguments
  cases harguments with
  | none => exact .nil
  | some ha => exact ha.operands

/-- What is inside the parentheses of alike trees is alike. -/
theorem unwrap (h : n.Alike s s' n') : n.unwrap.Alike s s' n'.unwrap := by
  induction n using unwrap_induction generalizing n' with
  | stay n hne =>
    have hne' : n'.kind = .parenthesized → ∀ inner, n'.operands ≠ [inner] := by
      intro hkind inner' hinner'
      have hoperands := h.operands
      rw [hinner', List.forall₂_cons_right_iff] at hoperands
      obtain ⟨inner, rest, -, hrest, hinner⟩ := hoperands
      rw [List.forall₂_nil_right_iff.1 hrest] at hinner
      exact hne (by rwa [h.kind] at hkind) inner hinner
    rwa [unwrap_of_forall_ne hne, unwrap_of_forall_ne hne']
  | descend n inner hkind hinner ih =>
    have hoperands := h.operands
    rw [hinner, List.forall₂_cons_left_iff] at hoperands
    obtain ⟨inner', rest, hinner', hrest, heq⟩ := hoperands
    rw [List.forall₂_nil_left_iff.1 hrest] at heq
    rw [unwrap_of_operands hkind hinner, unwrap_of_operands (by rwa [h.kind]) heq]
    exact ih hinner'

/-! ### What is read from the source -/

/-- Alike literals have the same value. -/
theorem value? (h : n.Alike s s' n') : Literal.value? s' n' = Literal.value? s n := by
  have hcodes : n'.namedChildren.map (Literal.partCodes s') =
      n.namedChildren.map (Literal.partCodes s) := by
    rw [← List.forall₂_eq_eq_eq, List.forall₂_map_left_iff, List.forall₂_map_right_iff]
    refine (h.namedChildren.imp fun c c' hc => ?_).flip
    rw [flip, Literal.partCodes, Literal.partCodes, hc.symbol, hc.text]
  rw [Literal.value?, Literal.value?, h.kind, List.flatMap_def, hcodes, List.flatMap_def, Literal.raw,
    Literal.raw, h.text]

/-- Alike factories have the same body. -/
theorem factoryBody (h : n.Alike s s' n') :
    Node.factoryBody s' (some n') = Node.factoryBody s (some n) := by
  rw [Node.factoryBody, Node.factoryBody, h.kind]
  have hbody := h.child? .body
  generalize n.child? .body = b, n'.child? .body = b' at hbody
  cases hbody with
  | none => rfl
  | some hbody => simp only [hbody.kind, hbody.text]

/-- Alike callees name the same method, on objects with the same text. -/
theorem registryMethod? (h : n.Alike s s' n') : n'.registryMethod? s' = n.registryMethod? s := by
  have hobject : (n'.child? .object).map (·.text s') = (n.child? .object).map (·.text s) := by
    have hobject := h.child? .object
    generalize n.child? .object = o, n'.child? .object = o' at hobject
    cases hobject with
    | none => rfl
    | some hobject => exact congrArg some hobject.text
  rw [Node.registryMethod?, Node.registryMethod?, h.kind, hobject]
  have hproperty := h.child? .property
  generalize n.child? .property = p, n'.child? .property = p' at hproperty
  cases hproperty with
  | none => rfl
  | some hproperty => simp only [hproperty.kind, hproperty.text]

end Alike

end BundleManifest.Script.Node
