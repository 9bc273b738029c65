import BundleManifest.Proofs.Script.Address
import BundleManifest.Registration.Build

/-!
# What registrations and their records are made of

The definitions take a call apart by its shape. What is said here is what remains of them when they
have succeeded, so that later proofs do not unfold them again.

* `Classifier.classify_eq_some_iff`: the two cases in which a node is a registration, with all that is
  known of it then;
* `Extraction.size_of_build`: a record takes its size from the call;
* `Extraction.shape_of_build`: a record has the kind of the call, and the kind says which of its
  fields can be filled;
* `Extraction.content_of_build`: the record of a module definition takes its content from the block of
  its second argument (`Node.block?`).
-/

namespace BundleManifest

open Script

variable {source : Source} {n : Node} {r : Registration}

/-- A node is a registration in two cases: it calls a function expression where it stands, or a method
    of the registry on a receiver that counts. -/
theorem Classifier.classify_eq_some_iff {c : Classifier} : c.classify source n = some r ↔
    n.kind = .call ∧ ∃ callee, (n.child? .callee).map Node.unwrap = some callee ∧
      (callee.kind = .function ∧
          r = { kind := .bootstrap, node := n, arguments := n.argumentNodes } ∨
        callee.kind ≠ .function ∧ ∃ kind receiver,
          callee.registryMethod? source = some (kind, receiver) ∧ c.accepts receiver = true ∧
          r = { kind, node := n, arguments := n.argumentNodes, receiver }) := by
  constructor
  · intro h
    rw [classify] at h
    split at h
    · next hcall =>
      split at h
      · cases h
      · next callee hcallee =>
        refine ⟨hcall, callee, hcallee, ?_⟩
        split at h
        · next hfun => exact .inl ⟨hfun, (Option.some.inj h).symm⟩
        · next hfun =>
          refine .inr ⟨hfun, ?_⟩
          split at h
          · cases h
          · next kind receiver hmethod =>
            split at h
            · next hacc => exact ⟨kind, receiver, hmethod, hacc, (Option.some.inj h).symm⟩
            · cases h
    · cases h
  · rintro ⟨hcall, callee, hcallee, ⟨hfun, rfl⟩ | ⟨hfun, kind, receiver, hmethod, hacc, rfl⟩⟩
    · rw [classify, if_pos hcall, hcallee]
      exact if_pos hfun
    · rw [classify, if_pos hcall, hcallee]
      simp only [if_neg hfun, hmethod, if_pos hacc]

/-- The call of a registration is the node that was found to be one. -/
theorem Classifier.node_of_classify {c : Classifier} (h : c.classify source n = some r) :
    r.node = n := by
  obtain ⟨-, callee, -, ⟨-, rfl⟩ | ⟨-, kind, receiver, -, -, rfl⟩⟩ := classify_eq_some_iff.1 h
  · rfl
  · rfl

/-- The arguments of a registration are those of its call. -/
theorem Classifier.arguments_of_classify {c : Classifier} (h : c.classify source n = some r) :
    r.arguments = n.argumentNodes := by
  obtain ⟨-, callee, -, ⟨-, rfl⟩ | ⟨-, kind, receiver, -, -, rfl⟩⟩ := classify_eq_some_iff.1 h
  · rfl
  · rfl

theorem Script.Node.mem_children_of_mem_operands {m : Node} (h : m ∈ n.operands) : m ∈ n.children :=
  (List.mem_filter.1 (List.mem_filter.1 h).1).1

/-- The arguments of a call are nodes of its tree. -/
theorem Script.Node.mem_preorder_of_mem_argumentNodes {m : Node} (h : m ∈ n.argumentNodes) :
    m ∈ n.preorder := by
  rw [argumentNodes] at h
  split at h
  · cases h
  · next arguments harguments =>
    exact mem_preorder_of_part (List.mem_of_find?_eq_some harguments)
      (mem_preorder_of_part (mem_children_of_mem_operands h) m.self_mem_preorder)

/-- The block that is the body of a function expression. -/
def Script.Node.block? (n : Node) : Option Node :=
  if n.kind = .function then (n.child? .body).filter (·.kind = .statementBlock) else none

/-- A block is the body of a function, if this is a block of statements. -/
theorem Script.Node.block?_eq_some_iff {body : Node} : n.block? = some body ↔
    n.kind = .function ∧ n.child? .body = some body ∧ body.kind = .statementBlock := by
  rw [block?]
  split
  · next h => simp [h, Option.filter_eq_some_iff]
  · next h => simp [h]

/-- The body of a factory is the text of its block, if it has one. -/
theorem Script.Node.factoryBody_eq (factory : Option Node) :
    Node.factoryBody source factory = ((factory.bind block?).map (·.text source)).getD "" := by
  cases factory with
  | none => rfl
  | some factory =>
    rw [factoryBody, Option.bind_some, block?]
    split
    · cases factory.child? .body with
      | none => rfl
      | some body => by_cases h : body.kind = .statementBlock <;> simp [Option.filter, h]
    · rfl

/-- The size of a record is that of its call. -/
theorem Extraction.size_of_build {e : Extraction} {record : Record}
    (h : e.build source r = some record) : record.size = r.size := by
  cases hkind : r.kind <;> simp only [build, hkind] at h
  case run => cases h
  case bootstrap =>
    split at h
    · cases h
      rfl
    · cases h
  all_goals
    cases h
    rfl

/-- A record has the kind of its call. Only a module definition has content, and only an alias a
    target. -/
theorem Extraction.shape_of_build {e : Extraction} {record : Record}
    (h : e.build source r = some record) : record.kind = r.kind ∧
      (record.kind ≠ .define → record.content = "") ∧
        (record.kind.isAlias = false → record.target = "") := by
  cases hkind : r.kind <;> simp only [build, hkind] at h
  case run => cases h
  case bootstrap =>
    split at h
    · cases h
      exact ⟨rfl, fun _ => rfl, fun _ => rfl⟩
    · cases h
  case define =>
    cases h
    exact ⟨rfl, fun hne => absurd rfl hne, fun _ => rfl⟩
  case installed =>
    cases h
    exact ⟨rfl, fun _ => rfl, fun _ => rfl⟩
  all_goals
    cases h
    exact ⟨rfl, fun _ => rfl, fun halias => Bool.noConfusion halias⟩

/-- The record of a module definition has the body of the second argument, if bodies are taken. -/
theorem Extraction.content_of_build {e : Extraction} {record : Record}
    (h : e.build source r = some record) (hkind : record.kind = .define)
    (hcontent : e.includeContent = true) :
    record.content = Node.factoryBody source (r.argument? 1) := by
  cases hr : r.kind <;> simp only [build, hr] at h
  case define =>
    cases h
    exact if_pos hcontent
  case run => cases h
  case bootstrap =>
    split at h
    · cases h
      cases hkind
    · cases h
  all_goals
    cases h
    cases hkind

/-- If bodies are not taken, no record has content. -/
theorem Extraction.content_of_build_of_false {e : Extraction} {record : Record}
    (h : e.build source r = some record) (hcontent : e.includeContent = false) :
    record.content = "" := by
  by_cases hkind : record.kind = .define
  · cases hr : r.kind <;> simp only [build, hr] at h
    case define =>
      cases h
      exact if_neg (by simp [hcontent])
    case run => cases h
    case bootstrap =>
      split at h
      · cases h
        cases hkind
      · cases h
    all_goals
      cases h
      cases hkind
  · exact (shape_of_build h).2.1 hkind

end BundleManifest
