import BundleManifest.Proofs.Script.Grammar.Function
import BundleManifest.Script.Grammar.Expression

/-!
# Where expressions stand

The operands of expressions and their members and calls, the operators between them, and the
expressions as a whole lay out their nodes, if the goals in them do.

An expression is read from its first operand on, and what has been read becomes the left part of what
is read next: the callee of a call, the object of a member, the left operand of an operator. So the
invariant of the loops here is a single node that covers everything from the beginning of the
expression to the place where the parser is. Where a name turns out to be the parameter of an arrow
function, or brackets to be a pattern, only names and roles change, and nodes stay where they are.

* `yields_behindOperand`: members, calls and templates behind an operand;
* `yields_operators`: operators with their right operands, one after the other;
* `yields_expression`: every expression is laid out, if the goals in it are.
-/

namespace BundleManifest.Script.Parser

variable {text : List Char} {c start : Cursor} {read : Reader} {l : List Node}

theorem yields_part (hread : read.LaysOut text) (level : Nat) (semi : Bool) (hc : c.At text) :
    Yields (part read level semi) c (Laid text c · ·) :=
  yields_value hread _ hc

theorem yields_memberName (hc : c.At text) : Yields memberName c (Laid text c · ·) := by
  refine (yields_toToken hc).bind fun comments b hcomments => .here ?_
  extract_lets rest
  have hrest node b' (hnode : Laid text b [node] b') : Yields (rest node) b' (Laid text c · ·) :=
    .pure (hcomments.append (hnode.withRole _))
  split
  · exact (yields_leaf _ _ hcomments.place).bind hrest
  · exact (yields_leaf _ _ hcomments.place).bind hrest

theorem yields_index (hread : read.LaysOut text) (semi : Bool) (hc : c.At text) :
    Yields (index read semi) c (Laid text c · ·) := by
  refine (yields_mark _ hc).bind fun first b hfirst => ?_
  refine (yields_value hread _ hfirst.place).bind fun inner b hinner => ?_
  refine (yields_closing _ _ hinner.place).bind fun last b hlast => .pure ?_
  exact (hfirst.append hinner).append hlast

/-- Every step makes a node of the operand so far and of what is behind it. -/
theorem yields_behindOperand (hread : read.LaysOut text) (semi calls updates : Bool)
    (hstart : start.At text) {first : Phrase} (hfirst : Laid text start [first.node] c) :
    Yields (behindOperand read semi calls updates start first) c (Laid text start [·.node] ·) := by
  refine .iterate _ hfirst fun left b hleft => ?_
  refine .continuation hleft.place (.pure hleft) fun t ht => ?_
  dsimp -zeta only
  extract_lets c' target finish chain op
  have hfinish symbol form parts b' (hparts : Laid text start parts b') :
      Yields (finish symbol form parts) b' fun next b => Laid text start [(next.getD left).node] b :=
    .require fun _ => .here (.pure (hparts.node hstart symbol))
  have hcomments := ht.laid
  have hcallee := (hleft.withRole .callee).append hcomments
  have hobject := (hleft.withRole .object).append hcomments
  split
  · have hchain : Laid text b chain (c'.skip 2) :=
      hcomments.append ((Laid.gap (ht.token.skip 2) (c'.offset_le_skip 2)).node ht.token _)
    refine .goOn (.here ?_)
    extract_lets next
    split
    · refine .require fun _ => ?_
      refine (yields_toToken hchain.place).bind fun comments b hcomments => ?_
      refine (yields_arguments hread _ hcomments.place).bind fun args b hargs => hfinish _ _ _ b ?_
      exact (((hleft.withRole _).append hchain).append hcomments).append hargs
    split
    · refine (yields_index hread _ hchain.place).bind fun rest b hrest => hfinish _ _ _ b ?_
      exact ((hleft.withRole _).append hchain).append hrest
    · refine (yields_memberName hchain.place).bind fun rest b hrest => hfinish _ _ _ b ?_
      exact ((hleft.withRole _).append hchain).append hrest
  split
  · refine (yields_mark _ hleft.place).bind fun dot b hdot => ?_
    refine (yields_memberName hdot.place).bind fun rest b hrest => hfinish _ _ _ b ?_
    exact ((hleft.withRole _).append hdot).append hrest
  split
  · refine .goOn ?_
    exact (yields_index hread _ ht.token).bind fun rest b hrest =>
      hfinish _ _ _ b (hobject.append hrest)
  split
  · refine .goOn ?_
    exact (yields_arguments hread _ ht.token).bind fun args b hargs =>
      hfinish _ _ _ b (hcallee.append hargs)
  split
  · refine .goOn ?_
    exact (yields_template hread ht.token).bind fun parts b hparts =>
      hfinish _ _ _ b (hcallee.append (hparts.withRole _))
  split
  · exact (yields_mark _ hleft.place).bind fun sign b hsign => hfinish _ _ _ b (hleft.append hsign)
  · exact .pure hleft

/-! ## Operands -/

/-- A name that an arrow follows has become a parameter, and stands where it stood. -/
theorem yields_nameOrArrow (hread : read.LaysOut text) (semi : Bool) (hstart : start.At text)
    {name : Node} (hname : Laid text start [name] c) (form : Form) :
    Yields (nameOrArrow read semi start [] name form) c (Laid text start [·.node] ·) := by
  refine .continuation hname.place (.pure hname) fun t _ => .ite (fun _ => ?_) fun _ => .pure hname
  refine (yields_arrowBody hread semi hname.place).bind fun body b hbody => .here (.pure ?_)
  exact (hname.append hbody).node hstart _

theorem yields_async (hread : read.LaysOut text) (semi : Bool) (hc : c.At text) :
    Yields (async read semi) c (Laid text c [·.node] ·) := by
  refine .here ?_
  extract_lets name asName word
  have hbehind : (c.skip 5).At text := hc.skip 5
  have hword := Laid.gap hbehind (c.offset_le_skip 5)
  have hasName b : Yields asName b (Laid text c [·.node] ·) :=
    .goOn (yields_nameOrArrow hread semi hc (hword.node hc _) _)
  refine .goOn (.continuation hbehind (hasName _) fun t _ => ?_)
  dsimp -zeta only
  have hword := Laid.mark hc hbehind (c.offset_le_skip 5) "async"
  split
  · refine .goOn ?_
    exact (yields_function hread false hc).bind fun n b hn => .pure hn
  split
  · refine .orElse ?_ (hasName _)
    refine (yields_toToken hbehind).bind fun comments b hcomments => ?_
    refine (yields_parameters hread hcomments.place).bind fun params b hparams => ?_
    refine (yields_arrowBody hread semi hparams.place).bind fun body b hbody => .here (.pure ?_)
    exact ((hword.append hcomments).append (hparams.append hbody)).node hc _
  split
  · refine .orElse ?_ (hasName _)
    refine (yields_toToken hbehind).bind fun comments b hcomments => ?_
    refine (yields_identifier _ hcomments.place).bind fun param b hparam => ?_
    refine (yields_arrowBody hread semi hparam.place).bind fun body b hbody => .here (.pure ?_)
    exact ((hword.append hcomments).append (hparam.append hbody)).node hc _
  · exact hasName _

theorem yields_construction (hread : read.LaysOut text) (semi : Bool) (hc : c.At text) :
    Yields (construction read semi) c (Laid text c [·.node] ·) := by
  refine .here ?_
  refine (yields_keyword _ hc).bind fun word b hword => ?_
  refine .peek hword.place fun t _ => ?_
  split
  · refine (yields_mark _ hword.place).bind fun dot b hdot => ?_
    refine (yields_keyword _ hdot.place).bind fun target b htarget => .here (.pure ?_)
    exact ((hword.append hdot).append htarget).node hc _
  · refine (yields_toToken hword.place).bind fun comments b hcomments => ?_
    refine (hread _ b hcomments.place).bind fun p b hp => .require fun _ => ?_
    have hparts := (hword.append hcomments).append hp
    have hbare {form : Form} : Yields (do return ({
        node := c.nodeTo (← here) "new_expression" (word ++ comments ++ [p.node]), form } : Phrase)) b
        (Laid text c [·.node] ·) := .here (.pure (hparts.node hc _))
    refine .continuation hp.place hbare fun t ht => .ite (fun _ => ?_) fun _ => hbare
    refine .goOn ((yields_arguments hread semi ht.token).bind fun args b hargs => .here (.pure ?_))
    exact ((hparts.append ht.laid).append hargs).node hc _

theorem yields_importCall (hc : c.At text) : Yields importCall c (Laid text c [·.node] ·) := by
  refine .here ?_
  refine (yields_leaf _ _ hc).bind fun word b hword => ?_
  refine .peek hword.place fun t _ => ?_
  extract_lets behind
  split
  · refine (yields_mark _ hword.place).bind fun dot b hdot => ?_
    refine (yields_keyword _ hdot.place).bind fun meta' b hmeta => .here (.pure ?_)
    exact ((hword.append hdot).append hmeta).node hc _
  · exact .require fun _ => .pure hword

theorem yields_yield (hread : read.LaysOut text) (semi : Bool) (hc : c.At text) :
    Yields (yield read semi) c (Laid text c [·.node] ·) := by
  refine .here ?_
  refine (yields_keyword _ hc).bind fun word b hword => ?_
  have hbare := hword.node hc "yield_expression"
  refine .continuation hword.place (.here (.pure hbare)) fun t _ => .ite (fun _ => ?_) fun _ => ?_
  · refine (yields_mark _ hword.place).bind fun star b hstar => ?_
    refine (yields_part hread _ _ hstar.place).bind fun rest b hrest => .here (.pure ?_)
    exact ((hword.append hstar).append hrest).node hc _
  · refine .ite (fun _ => ?_) fun _ => .here (.pure hbare)
    refine (yields_part hread _ _ hword.place).bind fun rest b hrest => .here (.pure ?_)
    exact (hword.append hrest).node hc _

theorem yields_wordOperator (hread : read.LaysOut text) (semi : Bool) (word symbol : String)
    (hc : c.At text) : Yields (wordOperator read semi word symbol) c (Laid text c [·.node] ·) := by
  refine .here ?_
  refine (yields_keyword _ hc).bind fun op b hop => ?_
  refine (yields_part hread _ _ hop.place).bind fun rest b hrest => .here (.pure ?_)
  exact (hop.append hrest).node hc _

theorem yields_constant (symbol : String) (form : Form) (hc : c.At text) :
    Yields (constant symbol form) c (Laid text c [·.node] ·) :=
  .here ((yields_leaf _ _ hc).bind fun _ _ h => .pure h)

theorem yields_wordOperand (hread : read.LaysOut text) (semi : Bool) (word : String)
    (hc : c.At text) :
    Yields (wordOperand read semi word) c (Laid text c [·.node] ·) := by
  refine .here ?_
  split
  · exact (yields_function hread false hc).bind fun _ _ h => .pure h
  · exact yields_async hread semi hc
  · exact (yields_classFrom hread hc (.nil hc) false).bind fun _ _ h => .pure h
  · exact yields_construction hread semi hc
  · exact yields_importCall hc
  · exact yields_constant _ _ hc
  · exact yields_constant _ _ hc
  · exact yields_constant _ _ hc
  · exact yields_constant _ _ hc
  · exact yields_constant _ _ hc
  · exact yields_constant _ _ hc
  · refine .require fun _ => ?_
    exact (yields_leaf _ _ hc).bind fun name b hname => yields_nameOrArrow hread semi hc hname _

/-! ## Parentheses -/

/-- Two items of a list have a comma between them. -/
theorem yields_items_comma (close : String) (holes : Bool) {item : Parser Phrase} :
    Yields (items close holes item) c fun i _ => 1 < i.count → ∃ n ∈ i.nodes, n.symbol = "," := by
  -- Behind a comma there is one already, if there are items.
  let inv (i : Items) (_ : Cursor) : Prop :=
    (0 < i.count → i.open' = true → ∃ n ∈ i.nodes, n.symbol = ",") ∧
      (1 < i.count → ∃ n ∈ i.nodes, n.symbol = ",")
  have hall : Yields (items close holes item) c inv := by
    refine .iterate inv ⟨fun h => absurd h (by decide), fun h => absurd h (by decide)⟩ fun i b h => ?_
    refine Yields.any.bind fun t b _ => ?_
    split
    · exact .pure h
    split
    · refine .require fun _ => (yields_mark_mem ",").bind fun nodes b hnodes => .pure ?_
      obtain ⟨n, hn, hsymbol⟩ := hnodes
      have hmem : ∃ n ∈ (i.comma nodes).nodes, n.symbol = "," :=
        ⟨n, List.mem_append_left _ (List.mem_reverse.2 hn), hsymbol⟩
      exact ⟨fun _ _ => hmem, fun _ => hmem⟩
    refine .mayRepair fun _ => .ite (fun _ => .pure h) fun hopen => ?_
    refine Yields.any.bind fun comments b _ => Yields.any.bind fun p b _ => .pure ?_
    refine ⟨fun _ hfalse => absurd hfalse Bool.false_ne_true, fun hcount => ?_⟩
    obtain ⟨n, hn, hsymbol⟩ := h.1 (Nat.lt_of_succ_lt_succ hcount) (by simp at hopen; exact hopen.1)
    exact ⟨n, by simp [Items.item, hn], hsymbol⟩
  exact hall.mono fun _ _ h => h.2

/-- A list of nodes that stops at one of them does not go further. -/
theorem length_takeWhile_le {p : Node → Bool} {n : Node} (hp : p n = false) (s t : List Node) :
    ((s ++ n :: t).takeWhile p).length ≤ s.length := by
  induction s with
  | nil => simp [hp]
  | cons m s ih =>
    rw [List.cons_append, List.takeWhile_cons]
    split
    · exact Nat.succ_le_succ ih
    · exact Nat.zero_le _

/-- A list that is not all edge is its edges with what is left between them. -/
theorem eq_edges_append {p : Node → Bool} {n : Node} (hn : n ∈ l) (hp : p n = false) :
    l = l.takeWhile p ++ (l.drop (l.takeWhile p).length).take
        (l.length - (l.takeWhile p).length - (l.reverse.takeWhile p).reverse.length) ++
      (l.reverse.takeWhile p).reverse := by
  have hbefore := List.prefix_iff_eq_take.1 (l.takeWhile_prefix p)
  have hafter := List.reverse_suffix.2 (l.reverse.takeWhile_prefix p)
  rw [List.reverse_reverse] at hafter
  replace hafter := List.suffix_iff_eq_drop.1 hafter
  -- The edges do not overlap.
  have hle : (l.takeWhile p).length + (l.reverse.takeWhile p).reverse.length ≤ l.length := by
    obtain ⟨s, t, rfl⟩ := List.append_of_mem hn
    have hs := length_takeWhile_le hp s t
    have ht := length_takeWhile_le hp t.reverse s.reverse
    simp only [List.reverse_append, List.reverse_cons, List.append_assoc, List.singleton_append,
      List.length_reverse, List.length_append, List.length_cons] at hs ht ⊢
    omega
  generalize l.takeWhile p = before at hbefore hle ⊢
  generalize (l.reverse.takeWhile p).reverse = after at hafter hle ⊢
  have hmiddle :=
    List.take_append_drop (l.length - before.length - after.length) (l.drop before.length)
  rw [List.drop_drop, show before.length + (l.length - before.length - after.length) =
    l.length - after.length by omega, ← hafter] at hmiddle
  rw [List.append_assoc, hmiddle]
  have hends := List.take_append_drop before.length l
  rw [← hbefore] at hends
  exact hends.symm

/-- The expressions of a list with commas become one node, and the comments around them stay. -/
theorem laid_together {a b : Cursor} {before after : List Node}
    (h : Laid text a (before ++ l ++ after) b) :
    Laid text a (before ++ parenthesized.together l ++ after) b := by
  rw [parenthesized.together]
  split
  · next first last hfirst hlast =>
    exact Laid.gather h hfirst hlast rfl rfl
  · exact h

theorem yields_parenthesized (hread : read.LaysOut text) (semi : Bool) (hc : c.At text) :
    Yields (parenthesized read semi) c (Laid text c [·.node] ·) := by
  refine .here ?_
  refine (yields_mark _ hc).bind fun first b hfirst => ?_
  refine ((yields_items _ _ (fun _ => yields_spreadable hread) hfirst.place).and
    (yields_items_comma _ _)).bind fun inner b ⟨hinner, hcomma⟩ => ?_
  extract_lets inside isEdge before after middle contents
  refine (yields_closing _ _ hinner.place).bind fun last b hlast => .here ?_
  refine (yields_continuation _ _ hlast.place).bind ?_
  rintro arrow? _ ⟨rfl, -⟩
  have hlist := (hfirst.append hinner).append hlast
  split
  · refine (yields_arrowBody hread semi hlast.place).bind fun body b hbody => .here (.pure ?_)
    exact ((hlist.node hc _).append hbody).node hc _
  · refine .require fun hitems => .require fun _ => .pure ?_
    refine Laid.node hc ((hfirst.append ?_).append hlast) _
    simp only [contents]
    split
    · exact hinner
    · next hcount =>
      have hpos : 0 < inner.count := by
        simp only [Bool.and_eq_true, decide_eq_true_iff] at hitems
        exact hitems.1.1
      obtain ⟨n, hn, hsymbol⟩ := hcomma (by omega)
      have hedge : isEdge n = false := by
        simp only [isEdge, Node.isComment, Node.kind, hsymbol]
        decide
      have hinside := eq_edges_append (List.mem_reverse.2 hn) hedge
      exact laid_together (hinside ▸ hinner)

theorem yields_operand (hread : read.LaysOut text) (semi : Bool) (hc : c.At text) :
    Yields (operand read semi) c (Laid text c [·.node] ·) := by
  refine .here ?_
  split
  · exact .refuse
  split
  · exact yields_wordOperand hread semi _ hc
  split
  · exact (yields_number hc).bind fun _ _ h => .pure h
  split
  · exact (yields_string _ hc).bind fun _ _ h => .pure h
  split
  · exact (yields_template hread hc).bind fun _ _ h => .pure h
  split
  · exact yields_parenthesized hread semi hc
  split
  · exact (yields_array hread semi hc).bind fun _ _ h => .pure h
  split
  · exact (yields_object hread semi hc).bind fun _ _ h => .pure h
  split
  · exact (yields_regex hc).bind fun _ _ h => .pure h
  split
  · refine (yields_decorators hread hc).bind fun before b hbefore => ?_
    refine (yields_toToken hbefore.place).bind fun comments b hcomments => ?_
    exact (yields_classFrom hread hc (hbefore.append hcomments) false).bind fun _ _ h => .pure h
  · exact .refuse

/-! ## Operators -/

/-- Where no phrase is yielded, no node is made. -/
theorem yields_prefixed? (hread : read.LaysOut text) (semi : Bool) (hc : c.At text) :
    Yields (prefixed? read semi) c fun p? b => Laid text c (p?.map (·.node)).toList b := by
  refine .here ?_
  extract_lets word sign?
  clear_value sign?
  split
  · exact (yields_wordOperator hread semi _ _ hc).bind fun _ _ h => .pure h
  split
  · exact (yields_yield hread semi hc).bind fun _ _ h => .pure h
  split
  · exact (yields_wordOperator hread semi _ _ hc).bind fun _ _ h => .pure h
  split
  · exact (hread _ c hc).bind fun _ _ h => .pure h
  split
  · refine (yields_leaf _ _ hc).bind fun name b hname => ?_
    exact .peek hname.place fun t _ => .require fun _ => .pure hname
  split
  · exact .pure (.nil hc)
  · refine (yields_mark _ hc).bind fun op b hop => ?_
    split
    · refine (yields_value hread _ hop.place).bind fun rest b hrest => .here (.pure ?_)
      exact (hop.append hrest).node hc _
    · refine (yields_part hread _ _ hop.place).bind fun rest b hrest => .here (.pure ?_)
      exact (hop.append hrest).node hc _

/-- What is assigned to stands before the operator and the value. -/
theorem yields_assigned (hread : read.LaysOut text) (semi : Bool) (hstart : start.At text)
    {left : Phrase} (hleft : Laid text start [left.node] c) :
    Yields (assigned read semi start left) c (Laid text start [·.node] ·) := by
  refine .ite (fun _ => ?_) fun _ => .pure hleft
  refine .continuation hleft.place (.pure hleft) fun t _ => .ite (fun _ => ?_) fun _ => ?_
  · refine (yields_mark _ hleft.place).bind fun op b hop => ?_
    refine (yields_part hread _ _ hop.place).bind fun right b hright => .here (.pure ?_)
    exact ((hleft.append hop).append hright).node hstart _
  · split
    · exact .pure hleft
    · refine .require fun _ => ?_
      refine (yields_mark _ hleft.place).bind fun op b hop => ?_
      refine (yields_part hread _ _ hop.place).bind fun right b hright => .here (.pure ?_)
      exact ((hleft.append hop).append hright).node hstart _

theorem yields_term (hread : read.LaysOut text) (semi : Bool) (hc : c.At text) :
    Yields (term read semi) c (Laid text c [·.node] ·) := by
  refine .here ((yields_prefixed? hread semi hc).bind ?_)
  rintro (_ | p) b hp
  · refine (yields_operand hread semi hp.place).bind fun p b hoperand => ?_
    refine (yields_behindOperand hread semi true true hc (hp.append hoperand)).bind
      fun p b hbehind => ?_
    exact yields_assigned hread semi hc hbehind
  · exact yields_behindOperand hread semi true true hc hp

/-- Operators of one level or a tighter one are taken one after the other, each with what was read
    before as its left operand. -/
theorem yields_operators (hread : read.LaysOut text) (level : Nat) (semi : Bool)
    (hstart : start.At text) {first : Phrase} (hfirst : Laid text start [first.node] c) :
    Yields (operators read level semi start first) c (Laid text start [·.node] ·) := by
  refine .iterate _ hfirst fun left b hleft => ?_
  refine .continuation hleft.place (.pure hleft) fun t _ => ?_
  refine .ite (fun _ => .ite (fun _ => .require fun _ => ?_) fun _ => .pure hleft) fun _ => ?_
  · refine (yields_mark _ hleft.place).bind fun question b hquestion => ?_
    refine (yields_part hread _ _ hquestion.place).bind fun consequence b hconsequence => ?_
    refine (yields_mark _ hconsequence.place).bind fun colon b hcolon => ?_
    refine (yields_part hread _ _ hcolon.place).bind fun alternative b halternative =>
      .here (.pure ?_)
    exact ((((hleft.append hquestion).append hconsequence).append hcolon).append
      halternative).node hstart _
  · split
    · exact .pure hleft
    · refine .ite (fun _ => .require fun _ => ?_) fun _ => .pure hleft
      refine (yields_mark _ hleft.place).bind fun sign b hsign => ?_
      refine (yields_part hread _ _ hsign.place).bind fun right b hright => .here (.pure ?_)
      exact ((hleft.append hsign).append hright).node hstart _

/-! ## Expressions -/

theorem yields_expression (hread : read.LaysOut text) (level : Nat) (semi : Bool) (hc : c.At text) :
    Yields (expression read level semi) c (Laid text c [·.node] ·) :=
  .here ((yields_term hread semi hc).bind fun _ _ hfirst =>
    yields_operators hread level semi hc hfirst)

theorem yields_sequence (hread : read.LaysOut text) (semi : Bool) (hc : c.At text) :
    Yields (sequence read semi) c (Laid text c [·.node] ·) := by
  refine .here ?_
  refine (hread _ c hc).bind fun first b hfirst => ?_
  -- The first expression stays the first, so that there is no other if there is only one.
  refine (Yields.iterate (fun parts b => Laid text c parts.reverse b ∧ [first.node] <:+ parts)
    ⟨hfirst, List.suffix_rfl⟩ ?_).bind fun parts b ⟨hparts, hsuffix⟩ => ?_
  · rintro parts b ⟨hparts, hsuffix⟩
    refine .continuation hparts.place (.pure ⟨hparts, hsuffix⟩) fun t _ => ?_
    refine .ite (fun _ => .require fun _ => ?_) fun _ => .pure ⟨hparts, hsuffix⟩
    refine (yields_mark _ hparts.place).bind fun comma b hcomma => ?_
    refine (yields_part hread _ _ hcomma.place).bind fun part b hpart => .pure ⟨?_, ?_⟩
    · simpa using (hparts.append hcomma).append hpart
    · exact hsuffix.trans (List.suffix_append _ _)
  · refine .ite (fun hlength => .pure ?_) fun _ => .here (.pure (hparts.node hc _))
    rw [← hsuffix.eq_of_length hlength.symm] at hparts
    exact hparts

theorem yields_constructor (hread : read.LaysOut text) (semi : Bool) (hc : c.At text) :
    Yields (constructor read semi) c (Laid text c [·.node] ·) :=
  .here ((yields_operand hread semi hc).bind fun _ _ hp =>
    yields_behindOperand hread semi false false hc hp)

theorem yields_reference (hread : read.LaysOut text) (semi : Bool) (hc : c.At text) :
    Yields (reference read semi) c (Laid text c [·.node] ·) :=
  .here ((yields_operand hread semi hc).bind fun _ _ hp =>
    yields_behindOperand hread semi true false hc hp)

end BundleManifest.Script.Parser
