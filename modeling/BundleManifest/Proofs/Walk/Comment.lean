import BundleManifest.Proofs.Script.Moved
import BundleManifest.Proofs.Walk.Alike
import Mathlib.Logic.Function.Iterate

/-!
# Comments and parentheses

A tree has its comments as nodes among the others, and parentheses around an expression as a node
above it. Neither is meant to make a difference, and three places have to skip them: the statements of
a program, the arguments of a call, and the parentheses around a callee.

A list with comments put into it is `Commented`. A callee is `Wrapped` if comments are put into its
parentheses and more parentheses around it, at any depth and in any order. A call is `Dressed` if its
callee is wrapped and comments are put among its arguments.

* `Commented.filter`: nothing changes in a list when the comments are left out of it;
* `Wrapped.unwrap`: without parentheses, a wrapped callee is what it was;
* `Walker.comments_do_not_count`: a dressed call is the same registration, with the same record but
  for the size, and a program with comments put among its statements has the same records.
-/

namespace BundleManifest

open Script

/-- A list of nodes into which comments have been put; the others have counterparts in the same
    order. -/
inductive Commented (R : Node → Node → Prop) : List Node → List Node → Prop
  | nil : Commented R [] []
  | part {n n' : Node} {l l' : List Node} (hpart : R n n') (hrest : Commented R l l') :
      Commented R (n :: l) (n' :: l')
  | comment {c : Node} {l l' : List Node} (hcomment : c.kind = .comment) (hrest : Commented R l l') :
      Commented R l (c :: l')

/-- A node with further parentheses around it, or comments in the ones it has. -/
inductive Wrapped (s s' : Source) : Node → Node → Prop
  | same {n n' : Node} (h : n.Alike s s' n') : Wrapped s s' n n'
  | inside {n n' : Node} (hkind : n.kind = .parenthesized) (hkind' : n'.kind = .parenthesized)
      (hnamed : n'.named = n.named) (hparts : Commented (Wrapped s s') n.children n'.children) :
      Wrapped s s' n n'
  | around {n n' outer : Node} (hkind : outer.kind = .parenthesized) (hnamed : outer.named = true)
      (hinner : outer.operands = [n']) (h : Wrapped s s' n n') : Wrapped s s' n outer

/-- A call whose callee is wrapped, with comments among the arguments. -/
structure Dressed (s s' : Source) (call call' : Node) : Prop where
  kind : call.kind = .call
  kind' : call'.kind = .call
  callee : Option.Rel (Wrapped s s') (call.child? .callee) (call'.child? .callee)
  arguments : Option.Rel (fun a a' => Commented (Node.Alike s s') a.children a'.children)
    (call.child? .arguments) (call'.child? .arguments)

variable {s s' : Source} {n n' : Node} {l l' : List Node}

/-! ## The parentheses of a callee -/

namespace Script.Node

/-- What is inside a pair of parentheses, if that is one operand: one turn of the descent. -/
def inner? (n : Node) : Option Node :=
  if n.kind = .parenthesized then
    match n.operands with
    | [inner] => some inner
    | _ => none
  else none

/-- The inner node of a pair of parentheses is its single operand. -/
theorem inner?_eq_some_iff {inner : Node} :
    n.inner? = some inner ↔ n.kind = .parenthesized ∧ n.operands = [inner] := by
  rw [inner?]
  split
  · next hkind =>
    split
    · next heq => simp [hkind, heq]
    · next hne => exact iff_of_false (Option.some_ne_none _).symm fun h => hne inner h.2
  · next hkind => simp [hkind]

theorem inner?_eq_none_iff :
    n.inner? = none ↔ (n.kind = .parenthesized → ∀ inner, n.operands ≠ [inner]) := by
  rw [Option.eq_none_iff_forall_ne_some]
  simp only [ne_eq, inner?_eq_some_iff, not_and]
  exact ⟨fun h hkind inner => h inner hkind, fun h inner hkind => h hkind inner⟩

/-- The descent ends at a node where it cannot go on. -/
theorem inner?_unwrap (n : Node) : n.unwrap.inner? = none := by
  induction n using unwrap_induction with
  | stay n hne => rwa [unwrap_of_forall_ne hne, inner?_eq_none_iff]
  | descend n inner hkind hinner ih => rwa [unwrap_of_operands hkind hinner]

/-- The descent takes fewer turns than there are nodes. -/
theorem exists_iterate_inner? (n : Node) :
    ∃ k < n.size, (fun m => m.bind inner?)^[k] (some n) = some n.unwrap := by
  induction n using unwrap_induction with
  | stay n hne =>
    rw [unwrap_of_forall_ne hne]
    exact ⟨0, by rw [size_eq]; omega, rfl⟩
  | descend n inner hkind hinner ih =>
    obtain ⟨k, hk, hturns⟩ := ih
    have hlt := size_lt_of_mem (mem_children_of_operands_eq hinner)
    refine ⟨k + 1, by omega, ?_⟩
    rw [Function.iterate_succ_apply, Option.bind_some, inner?_eq_some_iff.2 ⟨hkind, hinner⟩, hturns,
      unwrap_of_operands hkind hinner]

theorem unwrap_unwrap (n : Node) : n.unwrap.unwrap = n.unwrap :=
  unwrap_of_forall_ne (inner?_eq_none_iff.1 n.inner?_unwrap)

end Script.Node

/-! ## Leaving out the comments -/

/-- If a test fails on comments and does not tell counterparts apart, it chooses counterparts. -/
theorem Commented.filter {R : Node → Node → Prop} {p : Node → Bool} (h : Commented R l l')
    (hcomment : ∀ c : Node, c.kind = .comment → p c = false) (hR : ∀ n n', R n n' → p n' = p n) :
    List.Forall₂ R (l.filter p) (l'.filter p) := by
  induction h with
  | nil => exact .nil
  | part hpart _ ih =>
    rw [List.filter_cons, List.filter_cons, hR _ _ hpart]
    split
    · exact .cons hpart ih
    · exact ih
  | comment hc _ ih => rwa [List.filter_cons_of_neg (by rw [hcomment _ hc]; decide)]

/-- The operands of a node with comments among its parts are counterparts of those that it had. -/
theorem Commented.operands {R : Node → Node → Prop} (h : Commented R n.children n'.children)
    (hR : ∀ m m', R m m' → m'.named = m.named ∧ m'.isComment = m.isComment) :
    List.Forall₂ R n.operands n'.operands := by
  simp only [Node.operands, Node.namedChildren, List.filter_filter]
  refine h.filter (fun c hc => ?_) fun m m' hm => ?_
  · rw [Node.isComment, hc]
    rfl
  · rw [(hR m m' hm).1, (hR m m' hm).2]

namespace Wrapped

theorem isComment_of_operands {outer inner : Node} (h : outer.operands = [inner]) :
    inner.named = true ∧ inner.isComment = false := by
  have hmem : inner ∈ outer.operands := h ▸ List.mem_singleton_self inner
  rw [Node.operands, Node.namedChildren, List.mem_filter, List.mem_filter] at hmem
  exact ⟨hmem.1.2, by simpa using hmem.2⟩

/-- A wrapped node is an operand exactly if the node is one. -/
theorem named_isComment (h : Wrapped s s' n n') :
    n'.named = n.named ∧ n'.isComment = n.isComment := by
  induction n' using Node.induction_parts generalizing n with
  | step n' ih =>
    cases h with
    | same h => exact ⟨h.named, h.isComment⟩
    | inside hkind hkind' hnamed _ =>
      exact ⟨hnamed, by rw [Node.isComment, Node.isComment, hkind, hkind']⟩
    | around hkind hnamed hinner h =>
      obtain ⟨hnamed', hcomment⟩ := ih _ (Node.mem_children_of_operands_eq hinner) h
      obtain ⟨htrue, hfalse⟩ := isComment_of_operands hinner
      rw [← hnamed', htrue, ← hcomment, hfalse, Node.isComment, hkind]
      exact ⟨hnamed, rfl⟩

/-- Without parentheses a wrapped node is alike to what the node is without them, if the parentheses
    hold one operand. -/
theorem unwrap (h : Wrapped s s' n n') : n.unwrap.Alike s s' n'.unwrap ∨
    n.unwrap.kind = .parenthesized ∧ n'.unwrap.kind = .parenthesized := by
  -- By induction on the wrapped node, which is larger than what it wraps.
  induction n' using Node.induction_parts generalizing n with
  | step n' ih =>
    cases h with
    | same h => exact .inl h.unwrap
    | inside hkind hkind' _ hparts =>
      have hoperands := hparts.operands fun _ _ hm => named_isComment hm
      by_cases hone : ∃ inner, n.operands = [inner]
      · obtain ⟨inner, hinner⟩ := hone
        rw [hinner, List.forall₂_cons_left_iff] at hoperands
        obtain ⟨inner', rest, hwrapped, hrest, hinner'⟩ := hoperands
        rw [List.forall₂_nil_left_iff.1 hrest] at hinner'
        rw [Node.unwrap_of_operands hkind hinner, Node.unwrap_of_operands hkind' hinner']
        exact ih inner' (Node.mem_children_of_operands_eq hinner') hwrapped
      · have hone' : ∀ inner', n'.operands ≠ [inner'] := by
          intro inner' hinner'
          rw [hinner', List.forall₂_cons_right_iff] at hoperands
          obtain ⟨inner, rest, -, hrest, hinner⟩ := hoperands
          rw [List.forall₂_nil_right_iff.1 hrest] at hinner
          exact hone ⟨inner, hinner⟩
        rw [Node.unwrap_of_forall_ne fun _ => not_exists.1 hone,
          Node.unwrap_of_forall_ne fun _ => hone']
        exact .inr ⟨hkind, hkind'⟩
    | around hkind _ hinner h =>
      rw [Node.unwrap_of_operands hkind hinner]
      exact ih _ (Node.mem_children_of_operands_eq hinner) h

/-- A wrapped callee calls the same. -/
theorem callsAlike (h : Wrapped s s' n n') : n.unwrap.CallsAlike s s' n'.unwrap := by
  rcases h.unwrap with h | ⟨hkind, hkind'⟩
  · exact h.callsAlike
  · refine ⟨by rw [hkind, hkind'], ?_⟩
    rw [Node.registryMethod?, Node.registryMethod?, if_neg (by rw [hkind']; decide),
      if_neg (by rw [hkind]; decide)]

end Wrapped

namespace Dressed

/-- Comments and parentheses around what is called do not change what is called. -/
theorem calleeAlike (h : Dressed s s' n n') :
    Option.Rel (fun m m' => m.unwrap.CallsAlike s s' m'.unwrap) (n.child? .callee)
      (n'.child? .callee) := by
  have hcallee := h.callee
  generalize n.child? .callee = f, n'.child? .callee = f' at hcallee
  cases hcallee with
  | none => exact .none
  | some hcallee => exact .some hcallee.callsAlike

/-- Comments between the arguments are no arguments. -/
theorem argumentNodes (h : Dressed s s' n n') :
    List.Forall₂ (Node.Alike s s') n.argumentNodes n'.argumentNodes := by
  rw [Node.argumentNodes, Node.argumentNodes]
  have harguments := h.arguments
  generalize n.child? .arguments = a, n'.child? .arguments = a' at harguments
  cases harguments with
  | none => exact .nil
  | some hparts => exact hparts.operands fun _ _ ha => ⟨ha.named, ha.isComment⟩

theorem kind_eq (h : Dressed s s' n n') : n'.kind = n.kind := by
  rw [h.kind, h.kind']

end Dressed

/-! ## The statements of a program -/

namespace Walker

variable {w : Walker} {b b' : Bundle}

/-- A search of a comment finds nothing. -/
theorem recordsIn_comment {c : Node} (hcomment : c.kind = .comment) (hleaf : c.children = []) :
    w.recordsIn s [c] = [] := by
  have hcall : w.classifier.classify s c = none := by
    rw [Classifier.classify, if_neg (by rw [hcomment]; decide)]
  have hrecord : w.recordOf? s c = none := by
    rw [recordOf?, hcall]
    rfl
  rw [recordsIn, Node.pending_cons_of_none hcall, hleaf, List.filterMap_cons_none hrecord]
  simp only [Node.pending, List.append_nil, List.flatMap_nil, List.filterMap_nil]

/-- The search of trees with comments among them finds the same records. -/
theorem recordsIn_commented (h : Commented (Node.Alike s s') l l')
    (hleaf : ∀ c ∈ l', c.kind = .comment → c.children = []) :
    w.recordsIn s' l' = w.recordsIn s l := by
  induction h with
  | nil => exact recordsIn_alike .nil
  | @part n n' l l' hpart _ ih =>
    rw [← List.singleton_append, recordsIn_append, ← List.singleton_append (l := l), recordsIn_append,
      recordsIn_alike (.cons hpart .nil), ih (List.forall_mem_cons.1 hleaf).2]
  | @comment c l l' hcomment _ ih =>
    obtain ⟨hc, hl⟩ := List.forall_mem_cons.1 hleaf
    rw [← List.singleton_append, recordsIn_append, recordsIn_comment hcomment (hc hcomment), ih hl,
      List.nil_append]

end Walker

/-- Comments are no statements. -/
theorem Bundle.statementCount_commented {b b' : Bundle}
    (h : Commented (Node.Alike b.source b'.source) b.root.children b'.root.children) :
    b'.statementCount = b.statementCount := by
  simp only [statementCount, Node.namedChildren, List.filter_filter]
  refine (List.Forall₂.length_eq (h.filter (fun c hc => ?_) fun n n' hn => ?_)).symm
  · simp [hc]
  · rw [hn.kind, hn.named]

namespace Walker

/-- Comments and parentheses that are put into a bundle do not count.

    A call with comments among its arguments, comments in the parentheses around its callee and more
    parentheses there is the same registration: of the same kind, on the same receiver, with the texts
    of the same arguments; or neither is one. Its record is the same but for the size. A program with
    comments put among its statements has the same status and records. The descent into parentheses
    takes fewer turns than there are nodes, ends at a node where it would stay, and that one is a pair
    of parentheses only if it does not hold exactly one operand. -/
theorem comments_do_not_count (w : Walker) :
    (∀ (s s' : Source) (call call' : Node), Dressed s s' call call' →
      (w.classifier.classify s' call').map
          (fun r => (r.kind, r.receiver, r.arguments.map (·.text s'))) =
        (w.classifier.classify s call).map
          (fun r => (r.kind, r.receiver, r.arguments.map (·.text s))) ∧
      w.recordOf? s' call' =
        (w.recordOf? s call).map fun record => { record with size := call'.span }) ∧
    (∀ b b' : Bundle, b.root.kind = .program → b'.root.kind = .program →
      Commented (Node.Alike b.source b'.source) b.root.children b'.root.children →
      (∀ c ∈ b'.root.children, c.kind = .comment → c.children = []) → w.walk b' = w.walk b) ∧
    ∀ n : Node, (∃ k < n.size, (fun m => m.bind Node.inner?)^[k] (some n) = some n.unwrap) ∧
      n.unwrap.inner? = none ∧ n.unwrap.unwrap = n.unwrap ∧
      (n.unwrap.kind = .parenthesized → n.unwrap.operands.length ≠ 1) := by
  refine ⟨fun s s' call call' h => ⟨?_, ?_⟩, fun b b' hb hb' h hleaf => ?_, fun n => ?_⟩
  · have hregistration := w.classifier.classify_alike h.kind_eq h.calleeAlike h.argumentNodes
    generalize w.classifier.classify s call = r, w.classifier.classify s' call' = r' at hregistration
    cases hregistration with
    | none => rfl
    | some hr => rw [Option.map_some, Option.map_some, hr.kind, hr.receiver, hr.texts]
  · exact recordOf?_eq_map h.kind_eq h.calleeAlike h.argumentNodes
  · rw [walk, walk, Bundle.statementCount_commented h, records_eq_recordsIn w hb,
      records_eq_recordsIn w hb', recordsIn_commented h hleaf]
  · refine ⟨n.exists_iterate_inner?, n.inner?_unwrap, n.unwrap_unwrap, fun hkind hone => ?_⟩
    obtain ⟨inner, hinner⟩ := List.length_eq_one_iff.1 hone
    exact Node.inner?_eq_none_iff.1 n.inner?_unwrap hkind inner hinner

/-- A call of two bundles: with a comment and parentheses at its callee and a comment before its
    argument, and behind a comment. -/
theorem comments_do_not_count_of_main :
    let token (symbol : String) (start stop : Nat) : Node :=
      { symbol, named := false, start, stop, point := ⟨0, start⟩ }
    let node (symbol : String) (start stop : Nat) (children : List Node) : Node :=
      { symbol, start, stop, point := ⟨0, start⟩, children }
    let plain := Source.ofText "m.main('a')"
    let dressed := Source.ofText "(/**/m.main)(/**/'a')"
    let behind := Source.ofText "/**/m.main('a')"
    let callee := node "member_expression" 0 6
      [(node "identifier" 0 1 []).withRole .object, token "." 1 2,
        (node "property_identifier" 2 6 []).withRole .property]
    let argument := node "string" 7 10 [token "'" 7 8, node "string_fragment" 8 9 [], token "'" 9 10]
    let call := node "call_expression" 0 11
      [callee.withRole .callee,
        (node "arguments" 6 11 [token "(" 6 7, argument, token ")" 10 11]).withRole .arguments]
    let wrapped := node "parenthesized_expression" 0 12
      [token "(" 0 1, node "comment" 1 5 [], callee.moved 5 id, token ")" 11 12]
    let call' := node "call_expression" 0 21
      [wrapped.withRole .callee,
        (node "arguments" 12 21
          [token "(" 12 13, node "comment" 13 17 [], argument.moved 10 id, token ")" 20 21]).withRole
          .arguments]
    let bundle : Bundle := ⟨plain, node "program" 0 11 [call]⟩
    let bundle' : Bundle := ⟨behind, node "program" 0 15 [node "comment" 0 4 [], call.moved 4 id]⟩
    Dressed plain dressed call call' ∧
    recordOf? {} plain call =
    some { kind := .main, size := 11, path := "a", identity := ModulePath.decode "a" } ∧
    recordOf? {} dressed call' =
      some { kind := .main, size := 21, path := "a", identity := ModulePath.decode "a" } ∧
    walk {} bundle' = walk {} bundle := by
  intro token node plain dressed behind callee argument call wrapped call' bundle bundle'
  have hcallee : callee.SameBytes plain dressed 5 := by
    rw [Node.SameBytes]
    decide +kernel
  have hargument : argument.SameBytes plain dressed 10 := by
    rw [Node.SameBytes]
    decide +kernel
  have hcall : call.SameBytes plain behind 4 := by
    rw [Node.SameBytes]
    decide +kernel
  have hdressed : Dressed plain dressed call call' := {
    kind := rfl
    kind' := rfl
    callee := .some (.around rfl rfl rfl (.same ((hcallee.alike id).withRole .callee)))
    arguments := .some (.part (.intro rfl rfl (by decide +kernel) rfl rfl .nil) (.comment rfl
      (.part (hargument.alike id) (.part (.intro rfl rfl (by decide +kernel) rfl rfl .nil) .nil)))) }
  have hcommented :
      Commented (Node.Alike plain behind) [call] [node "comment" 0 4 [], call.moved 4 id] :=
    .comment rfl (.part (hcall.alike id) .nil)
  have hrecord : recordOf? {} plain call =
      some { kind := .main, size := 11, path := "a", identity := ModulePath.decode "a" } := by
    decide +kernel
  obtain ⟨hcalls, hprograms, -⟩ := comments_do_not_count {}
  refine ⟨hdressed, hrecord, ?_, hprograms bundle bundle' rfl rfl hcommented fun c hc hkind => ?_⟩
  · rw [(hcalls plain dressed call call' hdressed).2, hrecord]
    rfl
  · rcases List.mem_pair.1 hc with rfl | rfl
    · rfl
    · exact NodeKind.noConfusion hkind

end Walker

end BundleManifest
