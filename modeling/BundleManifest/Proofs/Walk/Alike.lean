import BundleManifest.Proofs.Script.Alike
import BundleManifest.Proofs.Walk.Finding

/-!
# Calls that are read alike

What a call registers is decided by its callee, without the parentheses around it, and by its
arguments. Two calls whose callees name the same method (`Node.CallsAlike`), and whose arguments are
alike, are registrations that say the same (`Registration.Alike`), or neither is one
(`Classifier.classify_alike`). Their records are the same but for the size
(`Walker.recordOf?_eq_map`), and a search of alike trees finds the same records
(`Walker.recordsIn_alike`).

Nothing that is asked of a call goes beyond the nodes below it and their texts, so that there is one
lemma for each question, in the order in which they are asked: the callee and the method that it
names, the receiver, the kind of the call, and each of the fields of its record. The size of the
record is the only thing that is taken from the span of the call, and this is why it may differ when
comments were put in.
-/

namespace BundleManifest

open Script

variable {s s' : Source} {n n' : Node} {r r' : Registration}

/-- Two callees are function expressions, or name the same method on objects with the same text, or
    neither means anything as a callee. -/
structure Script.Node.CallsAlike (s s' : Source) (callee callee' : Node) : Prop where
  function : callee'.kind = .function ↔ callee.kind = .function
  method : callee'.registryMethod? s' = callee.registryMethod? s

/-- Two registrations are of the same kind, on objects with the same text, and have alike
    arguments. -/
structure Registration.Alike (s s' : Source) (r r' : Registration) : Prop where
  kind : r'.kind = r.kind
  receiver : r'.receiver = r.receiver
  arguments : List.Forall₂ (Node.Alike s s') r.arguments r'.arguments

/-! ## The registration -/

/-- Calls that call the same with alike arguments are the same registration, or neither is one. -/
theorem Classifier.classify_alike (c : Classifier) (hkind : n'.kind = n.kind)
    (hcallee : Option.Rel (fun m m' => m.unwrap.CallsAlike s s' m'.unwrap)
      (n.child? .callee) (n'.child? .callee))
    (harguments : List.Forall₂ (Node.Alike s s') n.argumentNodes n'.argumentNodes) :
    Option.Rel (Registration.Alike s s') (c.classify s n) (c.classify s' n') := by
  rw [classify, classify, hkind]
  by_cases hcall : n.kind = .call
  · rw [if_pos hcall, if_pos hcall]
    generalize n.child? .callee = f, n'.child? .callee = f' at hcallee
    cases hcallee with
    | none => exact .none
    | @some m m' h =>
      simp only [Option.map_some, h.function, h.method]
      split
      · exact .some ⟨rfl, rfl, harguments⟩
      · cases m.unwrap.registryMethod? s with
        | none => exact .none
        | some method =>
          dsimp only
          split
          · exact .some ⟨rfl, rfl, harguments⟩
          · exact .none
  · rw [if_neg hcall, if_neg hcall]
    exact .none

namespace Registration

theorem Alike.texts (h : r.Alike s s' r') :
    r'.arguments.map (·.text s') = r.arguments.map (·.text s) := by
  rw [← List.forall₂_eq_eq_eq, List.forall₂_map_left_iff, List.forall₂_map_right_iff]
  exact (h.arguments.imp fun _ _ ha => ha.text).flip

/-- An argument of one call is alike to the one at the same place of the other. -/
theorem Alike.argument? (h : r.Alike s s' r') (i : Nat) :
    Option.Rel (Node.Alike s s') (r.argument? i) (r'.argument? i) := by
  rw [Registration.argument?, Registration.argument?]
  have harguments := h.arguments
  generalize r.arguments = l at harguments ⊢
  generalize r'.arguments = l' at harguments ⊢
  induction harguments generalizing i with
  | nil => exact .none
  | cons ha _ ih =>
    cases i with
    | zero => exact .some ha
    | succ i => exact ih i

/-- A string literal among the arguments has the same value in both calls. -/
theorem Alike.literal (h : r.Alike s s' r') (i : Nat) : r'.literal s' i = r.literal s i := by
  rw [Registration.literal, Registration.literal]
  have hargument := h.argument? i
  generalize r.argument? i = a, r'.argument? i = a' at hargument
  cases hargument with
  | none => rfl
  | some ha => rw [Option.bind_some, Option.bind_some, ha.value?]

/-- The body of a function among the arguments has the same text in both calls. -/
theorem Alike.factoryBody (h : r.Alike s s' r') (i : Nat) :
    Node.factoryBody s' (r'.argument? i) = Node.factoryBody s (r.argument? i) := by
  have hargument := h.argument? i
  generalize r.argument? i = a, r'.argument? i = a' at hargument
  cases hargument with
  | none => rfl
  | some ha => exact ha.factoryBody

end Registration

/-! ## The record -/

/-- Registrations that say the same have the same record but for the size. -/
theorem Extraction.build_alike (e : Extraction) (h : r.Alike s s' r') :
    e.build s' r' = (e.build s r).map fun record => { record with size := r'.size } := by
  simp only [build, h.kind, h.literal, h.factoryBody]
  cases r.kind
  case bootstrap =>
    dsimp only
    split <;> rfl
  all_goals rfl

namespace Walker

variable {w : Walker}

/-- Calls that call the same with alike arguments have the same record but for the size. -/
theorem recordOf?_eq_map (hkind : n'.kind = n.kind)
    (hcallee : Option.Rel (fun m m' => m.unwrap.CallsAlike s s' m'.unwrap)
      (n.child? .callee) (n'.child? .callee))
    (harguments : List.Forall₂ (Node.Alike s s') n.argumentNodes n'.argumentNodes) :
    w.recordOf? s' n' = (w.recordOf? s n).map fun record => { record with size := n'.span } := by
  have h := w.classifier.classify_alike hkind hcallee harguments
  rw [recordOf?, recordOf?]
  generalize hr : w.classifier.classify s n = o at h
  generalize hr' : w.classifier.classify s' n' = o' at h
  cases h with
  | none => rfl
  | some h =>
    rw [Option.bind_some, Option.bind_some, w.extraction.build_alike h, Registration.size,
      Classifier.node_of_classify hr']

theorem size_of_recordOf? {record : Record} (h : w.recordOf? s n = some record) :
    record.size = n.span := by
  obtain ⟨r, hr, hrecord⟩ := Option.bind_eq_some_iff.1 h
  rw [Extraction.size_of_build hrecord, Registration.size, Classifier.node_of_classify hr]

end Walker

/-! ## Alike calls -/

/-- Alike callees call the same. -/
theorem Script.Node.Alike.callsAlike (h : n.Alike s s' n') : n.CallsAlike s s' n' :=
  ⟨by rw [h.kind], h.registryMethod?⟩

/-- What is called is alike, up to parentheses around it. -/
theorem Script.Node.Alike.callee (h : n.Alike s s' n') :
    Option.Rel (fun m m' => m.unwrap.CallsAlike s s' m'.unwrap) (n.child? .callee)
      (n'.child? .callee) := by
  have hcallee := h.child? .callee
  generalize n.child? .callee = f, n'.child? .callee = f' at hcallee
  cases hcallee with
  | none => exact .none
  | some hcallee => exact .some hcallee.unwrap.callsAlike

/-- Of two alike nodes both are registrations, or neither is one. -/
theorem Script.Node.Alike.classify_eq_none_iff (h : n.Alike s s' n') (c : Classifier) :
    c.classify s' n' = none ↔ c.classify s n = none := by
  have hregistration := c.classify_alike h.kind h.callee h.argumentNodes
  generalize c.classify s n = r, c.classify s' n' = r' at hregistration
  cases hregistration with
  | none => rfl
  | some _ => exact iff_of_false (Option.some_ne_none _) (Option.some_ne_none _)

namespace Walker

variable {w : Walker}

/-- Alike nodes have the same record. -/
theorem recordOf?_alike (h : n.Alike s s' n') : w.recordOf? s' n' = w.recordOf? s n := by
  rw [recordOf?_eq_map h.kind h.callee h.argumentNodes]
  cases hrecord : w.recordOf? s n with
  | none => rfl
  | some record => rw [Option.map_some, h.span, ← size_of_recordOf? hrecord]

/-- The records that a search of some trees finds. -/
def recordsIn (w : Walker) (s : Source) (trees : List Node) : List Record :=
  (Node.pending (w.classifier.classify s) trees).filterMap (w.recordOf? s)

theorem recordsIn_append (trees trees' : List Node) :
    w.recordsIn s (trees ++ trees') = w.recordsIn s trees ++ w.recordsIn s trees' := by
  rw [recordsIn, recordsIn, recordsIn, Node.pending_append, List.filterMap_append]

/-- No program is a call itself, so that its records are those in its statements. -/
theorem records_eq_recordsIn {b : Bundle} (w : Walker) (h : b.root.kind = .program) :
    w.records b = w.recordsIn b.source b.root.children := by
  -- The root is no call.
  have hroot : w.classifier.classify b.source b.root = none := by
    rw [Classifier.classify, if_neg (by rw [h]; decide)]
  have hrecord : w.recordOf? b.source b.root = none := by
    rw [recordOf?, hroot]
    rfl
  rw [records, registrations, Node.outermost_eq, List.filterMap_filterMap,
    Node.pending_cons_of_none hroot, List.append_nil]
  exact List.filterMap_cons_none hrecord

/-- The search of alike trees finds the same records. -/
theorem recordsIn_alike {trees trees' : List Node} (h : List.Forall₂ (Node.Alike s s') trees trees') :
    w.recordsIn s' trees' = w.recordsIn s trees := by
  -- By induction on what the search takes: first a tree, and then its parts, or only what is to its
  -- right.
  induction trees using Node.outermost.induct (w.classifier.classify s) generalizing trees' with
  | case1 =>
    rw [List.forall₂_nil_left_iff.1 h]
    simp only [recordsIn, Node.pending, List.flatMap_nil, List.filterMap_nil]
  | case2 n trees r hr ih =>
    obtain ⟨n', trees', hn, htrees, rfl⟩ := List.forall₂_cons_left_iff.1 h
    have hsome : (w.classifier.classify s' n').isSome := by
      rw [Option.isSome_iff_ne_none, ne_eq, hn.classify_eq_none_iff, hr]
      exact Option.some_ne_none r
    obtain ⟨r', hr'⟩ := Option.isSome_iff_exists.1 hsome
    have hrest := ih htrees
    rw [recordsIn, recordsIn] at hrest ⊢
    rw [Node.pending_cons_of_some hr', Node.pending_cons_of_some hr, List.filterMap_cons,
      List.filterMap_cons, recordOf?_alike hn, hrest]
  | case3 n trees hr ih =>
    obtain ⟨n', trees', hn, htrees, rfl⟩ := List.forall₂_cons_left_iff.1 h
    have hr' := (hn.classify_eq_none_iff w.classifier).2 hr
    have hrest := ih (List.rel_append hn.parts htrees)
    rw [recordsIn, recordsIn] at hrest ⊢
    rw [Node.pending_cons_of_none hr', Node.pending_cons_of_none hr, List.filterMap_cons,
      List.filterMap_cons, recordOf?_alike hn, hrest]

end Walker

end BundleManifest
