import BundleManifest.Proofs.Script.Escape
import BundleManifest.Proofs.Walk.Span

/-!
# Walks with checks

A walk takes what it needs without asking whether it is there: what an escape sequence has for a
number is read as one, an argument is looked up at its place, and every kind of call is on one of the
ways to a record. Here the walk is done once more with all these checks, and stops where one of them
fails (`WalkFault`).

Two of the checks never fail, whatever the tree is. The third one fails only at an escape sequence
that has none of the forms of such sequences (`Script.Node.HasMalformed`). A walk with checks that
does not stop there ends in the result of the walk.

That a computation ends in a value, or stops at such an escape sequence, is a judgment with rules of
its own (`EndsIn`), and there is one lemma for each of the functions of a walk.

* `Extraction.endsIn_attempt`: the record of a call, of any kind and with any arguments;
* `Walker.endsIn_attempt`: the walk.
-/

namespace BundleManifest

open Script

/-- What a walk with checks can stop at. -/
inductive WalkFault where
  /-- An escape sequence without a number, or with a number that is not the number of a code point. -/
  | escape (sequence : List Char)
  /-- An argument that is not there. -/
  | argument (index : Nat)
  /-- A call of a kind that is on no way to a record. -/
  | unhandled (kind : CallKind)
  deriving DecidableEq, Repr

/-! ## The checks -/

namespace Script.Literal

/-- The code points that a part of a literal stands for, if the numbers in it are numbers of code
    points. -/
def attemptPart (source : Source) (part : Node) : Except WalkFault (List Nat) :=
  let text := (part.text source).toList
  if part.symbol = "escape_sequence" then
    match Escape.checkedValue? text with
    | some codes => .ok codes
    | none => .error (.escape text)
  else .ok (text.map (·.toNat))

/-- The value of a node, if it is a string literal, with all its parts checked. -/
def attempt (source : Source) (n : Node) : Except WalkFault (Option String) :=
  if n.kind = .string then do
    let codes ← n.namedChildren.mapM (attemptPart source)
    .ok (some (String.ofList ((Utf16.decode? (Utf16.units codes.flatten)).getD (raw source n))))
  else .ok none

end Script.Literal

namespace Registration

/-- The argument at a place, if the call has so many. -/
def attemptArgument (r : Registration) (i : Nat) : Except WalkFault (Option Node) :=
  if i < r.arguments.length then
    match r.arguments[i]? with
    | some argument => .ok (some argument)
    | none => .error (.argument i)
  else .ok none

/-- The value of an argument that is a string literal, and else the empty text. -/
def attemptLiteral (r : Registration) (source : Source) (i : Nat) : Except WalkFault String := do
  match ← r.attemptArgument i with
  | none => .ok ""
  | some argument =>
    let value ← Literal.attempt source argument
    .ok (value.getD "")

end Registration

namespace Extraction

/-- The content of a module definition, if bodies are taken. -/
def attemptContent (e : Extraction) (source : Source) (r : Registration) : Except WalkFault String :=
  if e.includeContent then do
    let factory ← r.attemptArgument 1
    .ok (Node.factoryBody source factory)
  else .ok ""

/-- The record of a call, if it has one. The kinds are asked for one after the other. -/
def attempt (e : Extraction) (source : Source) (r : Registration) :
    Except WalkFault (Option Record) :=
  if r.kind.emitsRecord = false then .ok none
  else if r.kind = .bootstrap then
    .ok (if e.includeLoader then
        some { kind := r.kind, size := r.size, path := loaderPath, identity := loaderIdentity }
      else none)
  else if r.kind = .define then do
    let path ← r.attemptLiteral source 0
    let content ← e.attemptContent source r
    .ok (some { kind := r.kind, size := r.size, path, identity := ModulePath.decode path, content })
  else if r.kind = .installed then do
    let path ← r.attemptLiteral source 0
    let packageName ← r.attemptLiteral source 1
    let version ← r.attemptLiteral source 2
    .ok (some {
      kind := r.kind, size := r.size, path, identity := Identity.ofEdge packageName version })
  else if r.kind.isAlias = true then do
    let path ← r.attemptLiteral source 0
    let target ← r.attemptLiteral source 1
    .ok (some { kind := r.kind, size := r.size, path, identity := ModulePath.decode path, target })
  else .error (.unhandled r.kind)

end Extraction

namespace Walker

/-- The records of the trees of a stack: of the registrations that are found, each with its record
    before the search goes on. -/
def attemptRecords (w : Walker) (source : Source) : List Node → Except WalkFault (List Record)
  | [] => .ok []
  | n :: stack =>
    match w.classifier.classify source n with
    | none => w.attemptRecords source (n.children ++ stack)
    | some r => do
      let record ← w.extraction.attempt source r
      let records ← w.attemptRecords source stack
      .ok (record.toList ++ records)
  termination_by stack => Node.sizeAll stack
  decreasing_by
  · simp [Node.sizeAll, Node.size_eq]
  · simp [Node.sizeAll, Node.size_eq]

/-- Decodes a bundle. -/
def attempt (w : Walker) (b : Bundle) : Except WalkFault WalkResult :=
  if b.statementCount = 0 then .ok { status := .emptyInput }
  else do
    let records ← w.attemptRecords b.source [b.root]
    .ok { status := .ok, records }

end Walker

/-! ## Escape sequences without a form -/

/-- Some string literal among the nodes has an escape sequence that has none of the forms of such
    sequences. -/
def Script.Node.HasMalformed (source : Source) (nodes : List Node) (sequence : List Char) : Prop :=
  ∃ n ∈ nodes, n.kind = .string ∧ ∃ c ∈ n.namedChildren, c.symbol = "escape_sequence" ∧
    (c.text source).toList = sequence ∧ ¬Escape.Form sequence

/-- A computation ends in a value, or stops at an escape sequence of the nodes that has no form. -/
def EndsIn {α : Type} (source : Source) (nodes : List Node) (x : Except WalkFault α)
    (value : α) : Prop :=
  x = .ok value ∨ ∃ sequence, Node.HasMalformed source nodes sequence ∧ x = .error (.escape sequence)

section Rules

variable {α β : Type} {source : Source} {nodes : List Node}

theorem EndsIn.ok (value : α) : EndsIn source nodes (.ok value) value :=
  .inl rfl

/-- There is no other end. -/
theorem EndsIn.eq_of_ok {x : Except WalkFault α} {a value : α} (h : EndsIn source nodes x value)
    (hx : x = .ok a) :
    a = value := by
  rcases h with rfl | ⟨sequence, -, rfl⟩
  · exact (Except.ok.inj hx).symm
  · cases hx

/-- Nothing else stops it. -/
theorem EndsIn.of_error {x : Except WalkFault α} {value : α} {fault : WalkFault}
    (h : EndsIn source nodes x value) (hx : x = .error fault) :
    ∃ sequence, fault = .escape sequence ∧ Node.HasMalformed source nodes sequence := by
  rcases h with rfl | ⟨sequence, hmalformed, rfl⟩
  · cases hx
  · exact ⟨sequence, (Except.error.inj hx).symm, hmalformed⟩

/-- One computation after the other. -/
theorem EndsIn.bind {x : Except WalkFault α} {f : α → Except WalkFault β} {a : α} {b : β}
    (hx : EndsIn source nodes x a) (hf : EndsIn source nodes (f a) b) :
    EndsIn source nodes (x >>= f) b := by
  rcases hx with rfl | ⟨sequence, h, rfl⟩
  · exact hf
  · exact .inr ⟨sequence, h, rfl⟩

/-- The same computation for each of some values. -/
theorem EndsIn.mapM {f : α → Except WalkFault β} {g : α → β} {l : List α}
    (h : ∀ a ∈ l, EndsIn source nodes (f a) (g a)) : EndsIn source nodes (l.mapM f) (l.map g) := by
  induction l with
  | nil => exact .ok []
  | cons a l ih =>
    obtain ⟨ha, hl⟩ := List.forall_mem_cons.1 h
    rw [List.mapM_cons]
    exact ha.bind ((ih hl).bind (.ok _))

end Rules

/-! ## The functions of a walk -/

variable {source : Source} {nodes : List Node}

/-- Reading a literal ends in its value. -/
theorem Script.Literal.endsIn_attempt {n : Node} (hn : n ∈ nodes) :
    EndsIn source nodes (attempt source n) (value? source n) := by
  rw [attempt, value?]
  split
  · next hkind =>
    have hparts : EndsIn source nodes (n.namedChildren.mapM (attemptPart source))
        (n.namedChildren.map (partCodes source)) := by
      refine .mapM fun c hc => ?_
      rw [attemptPart, partCodes]
      by_cases hsymbol : c.symbol = "escape_sequence"
      · rw [if_pos hsymbol, if_pos hsymbol]
        cases hchecked : Escape.checkedValue? (c.text source).toList with
        | some codes =>
          rw [Escape.value_of_checkedValue? hchecked]
          exact .ok codes
        | none =>
          -- A sequence of one of the forms has a checked value.
          refine .inr ⟨_, ⟨n, hn, hkind, c, hc, hsymbol, rfl, fun hform => ?_⟩, rfl⟩
          rw [Escape.checkedValue?_of_form hform] at hchecked
          cases hchecked
      · rw [if_neg hsymbol, if_neg hsymbol]
        exact .ok _
    rw [List.flatMap_def]
    exact hparts.bind (.ok _)
  · exact .ok none

namespace Registration

variable {r : Registration}

/-- An argument is looked up only where there is one. -/
theorem attemptArgument_eq (r : Registration) (i : Nat) :
    r.attemptArgument i = .ok (r.argument? i) := by
  rw [attemptArgument, argument?]
  split
  · next hi => rw [List.getElem?_eq_getElem hi]
  · next hi => rw [List.getElem?_eq_none (Nat.le_of_not_lt hi)]

theorem endsIn_attemptLiteral (h : ∀ a ∈ r.arguments, a ∈ nodes) (i : Nat) :
    EndsIn source nodes (r.attemptLiteral source i) (r.literal source i) := by
  rw [attemptLiteral, attemptArgument_eq, literal]
  cases ha : r.argument? i with
  | none => exact .ok ""
  | some a => exact (Literal.endsIn_attempt (h a (List.mem_of_getElem? ha))).bind (.ok _)

end Registration

namespace Extraction

variable {r : Registration}

/-- Taking the content never fails. -/
theorem attemptContent_eq (e : Extraction) (source : Source) (r : Registration) :
    e.attemptContent source r =
      .ok (if e.includeContent then Node.factoryBody source (r.argument? 1) else "") := by
  rw [attemptContent, Registration.attemptArgument_eq]
  split <;> rfl

/-- Every kind of call is on a way to a record, or to none, and this is the record of the call. -/
theorem endsIn_attempt (e : Extraction) (h : ∀ a ∈ r.arguments, a ∈ nodes) :
    EndsIn source nodes (e.attempt source r) (e.build source r) := by
  have hliteral : ∀ i, EndsIn source nodes (r.attemptLiteral source i) (r.literal source i) :=
    Registration.endsIn_attemptLiteral h
  cases hkind : r.kind <;> simp only [attempt, build, hkind]
  case run => exact .ok none
  case bootstrap => exact .ok _
  case define =>
    rw [attemptContent_eq]
    exact (hliteral 0).bind (.ok _)
  case installed => exact (hliteral 0).bind ((hliteral 1).bind ((hliteral 2).bind (.ok _)))
  all_goals exact (hliteral 0).bind ((hliteral 1).bind (.ok _))

end Extraction

namespace Walker

/-- Building the records ends in those of the nodes that are found, as each step ends in its own
    record. -/
theorem endsIn_attemptRecords (w : Walker) (stack : List Node)
    (h : ∀ n ∈ stack, ∀ m ∈ n.preorder, m ∈ nodes) :
    EndsIn source nodes (w.attemptRecords source stack)
      ((Node.outermost (w.classifier.classify source) stack).filterMap
        (w.extraction.build source)) := by
  -- By induction on the search; the nodes of all trees of its stack stay among the given ones.
  induction stack using Node.outermost.induct (w.classifier.classify source) with
  | case1 =>
    rw [attemptRecords, Node.outermost]
    exact .ok []
  | case2 n stack r hr ih =>
    obtain ⟨hn, hstack⟩ := List.forall_mem_cons.1 h
    have harguments : ∀ a ∈ r.arguments, a ∈ nodes := fun a ha =>
      hn a (Node.mem_preorder_of_mem_argumentNodes (Classifier.arguments_of_classify hr ▸ ha))
    have hvalue : (r :: Node.outermost (w.classifier.classify source) stack).filterMap
          (w.extraction.build source) =
        (w.extraction.build source r).toList ++
          (Node.outermost (w.classifier.classify source) stack).filterMap
            (w.extraction.build source) := by
      rw [List.filterMap_cons]
      cases w.extraction.build source r <;> rfl
    rw [attemptRecords, Node.outermost, hr]
    dsimp only
    rw [hvalue]
    exact (w.extraction.endsIn_attempt harguments).bind ((ih hstack).bind (.ok _))
  | case3 n stack hr ih =>
    obtain ⟨hn, hstack⟩ := List.forall_mem_cons.1 h
    rw [attemptRecords, Node.outermost, hr]
    refine ih (List.forall_mem_append.2 ⟨fun c hc m hm => hn m ?_, hstack⟩)
    exact Node.mem_preorder_of_part hc hm

/-- The walk with checks ends in the result of the walk, or stops at an escape sequence that has no
    form. -/
theorem endsIn_attempt (w : Walker) (b : Bundle) :
    EndsIn b.source b.root.preorder (w.attempt b) (w.walk b) := by
  rw [attempt, walk]
  split
  · exact .ok _
  · have htree : ∀ n ∈ [b.root], ∀ m ∈ n.preorder, m ∈ b.root.preorder := fun n hn m hm => by
      rwa [List.mem_singleton.1 hn] at hm
    exact (w.endsIn_attemptRecords [b.root] htree).bind (.ok _)

end Walker

end BundleManifest
