import BundleManifest.Proofs.Walk.Attempt
import BundleManifest.Proofs.Walk.Content

/-!
# What is in a record

The pieces of a record come from the arguments of its call: each from an argument at a fixed place,
where it is the value of a string literal, and empty if there is no argument or no literal
(`Script.Literal.Gives`). So there is a record for a call with any arguments, too few of them, too
many, or such of any kind, and in every record the pieces fit together (`Record.Fits`).

* `Extraction.fits_of_build`: the record of a call;
* `Walker.walk_consistent`: the walk over any tree, which goes through without a failure if the string
  literals of the tree are well-formed, and the records of the walk.
-/

namespace BundleManifest

open Script

/-- What an argument gives to a record: the value of a string literal; and nothing if it is none, or
    missing. -/
inductive Script.Literal.Gives (source : Source) : Option Node → String → Prop
  | literal {n : Node} {value : String} : n.kind = .string → Literal.value? source n = some value →
      Gives source (some n) value
  | other {argument : Option Node} : (∀ n, argument = some n → n.kind ≠ .string) →
      Gives source argument ""

/-- The pieces of a record fit together, and to the arguments of its call, comments not counted. -/
structure Record.Fits (source : Source) (call : Node) (record : Record) : Prop where
  emitted : record.kind ≠ .run
  /-- The path of a module or of an alias is the first argument, and says what the identity is. -/
  decoded : record.kind = .define ∨ record.kind.isAlias = true →
    Literal.Gives source call.argumentNodes[0]? record.path ∧
      record.identity = ModulePath.decode record.path
  /-- The name and the version of a dependency are the second and the third argument. -/
  edge : record.kind = .installed →
    Literal.Gives source call.argumentNodes[0]? record.path ∧
      Literal.Gives source call.argumentNodes[1]? record.identity.packageName ∧
      Literal.Gives source call.argumentNodes[2]? record.identity.version ∧
      record.identity.fileName = ""
  loader : record.kind = .bootstrap → record.path = loaderPath ∧ record.identity = loaderIdentity
  content : record.content ≠ "" → record.kind = .define
  target : record.target ≠ "" → record.kind.isAlias = true
  /-- The target of an alias is the second argument. -/
  aliased : record.kind.isAlias = true → Literal.Gives source call.argumentNodes[1]? record.target

/-- The escape sequences of all string literals of a tree have the forms of such sequences. -/
def Script.Node.WellEscaped (source : Source) (root : Node) : Prop :=
  ∀ n ∈ root.preorder, n.kind = .string → ∀ c ∈ n.namedChildren, c.symbol = "escape_sequence" →
    Escape.Form (c.text source).toList

variable {source : Source} {r : Registration} {call : Node}

/-- What a literal among the arguments gives is its value. -/
theorem Registration.gives_literal (r : Registration) (source : Source) (i : Nat) :
    Literal.Gives source (r.argument? i) (r.literal source i) := by
  rw [literal]
  cases hargument : r.argument? i with
  | none =>
    refine .other fun n hn => ?_
    cases hn
  | some n =>
    rw [Option.bind_some]
    by_cases hkind : n.kind = .string
    · obtain ⟨value, hvalue⟩ : ∃ value, Literal.value? source n = some value :=
        ⟨_, by rw [Literal.value?, if_pos hkind]⟩
      rw [hvalue]
      exact .literal hkind hvalue
    · rw [Literal.value?, if_neg hkind]
      exact .other fun m hm => Option.some.inj hm ▸ hkind

/-- The pieces of the record of a call fit together. -/
theorem Extraction.fits_of_build {e : Extraction} {record : Record}
    (h : e.build source r = some record)
    (harguments : r.arguments = call.argumentNodes) : record.Fits source call := by
  obtain ⟨hkind, hcontent, htarget⟩ := shape_of_build h
  have hgives : ∀ i, Literal.Gives source call.argumentNodes[i]? (r.literal source i) := fun i =>
    harguments ▸ r.gives_literal source i
  refine
    { emitted := fun hrun => ?_
      decoded := fun hdecoded => ?_
      edge := fun hinstalled => ?_
      loader := fun hbootstrap => ?_
      content := fun hne => by_contra fun hdefine => hne (hcontent hdefine)
      target := fun hne => by_contra fun halias => hne (htarget (Bool.eq_false_iff.2 halias))
      aliased := fun halias => ?_ }
  · rw [build, ← hkind, hrun] at h
    cases h
  · rw [hkind] at hdecoded
    cases hr : r.kind <;> rw [hr] at hdecoded
    case define | main | remap | builtin =>
      simp only [build, hr] at h
      cases h
      exact ⟨hgives 0, rfl⟩
    all_goals exact absurd hdecoded (by decide)
  · rw [build, ← hkind, hinstalled] at h
    cases h
    exact ⟨hgives 0, hgives 1, hgives 2, rfl⟩
  · rw [build, ← hkind, hbootstrap] at h
    dsimp only at h
    split at h
    · cases h
      exact ⟨rfl, rfl⟩
    · cases h
  · rw [hkind] at halias
    cases hr : r.kind <;> rw [hr] at halias
    case main | remap | builtin =>
      simp only [build, hr] at h
      cases h
      exact hgives 1
    all_goals exact absurd halias (by decide)

namespace Walker

/-- The walk over any tree:

    * if all string literals of the tree are well-formed, then a walk with checks never stops, and has
      the result of the walk, whatever the arguments of the calls are;
    * such a walk stops at nothing but an escape sequence that has none of the forms of such
      sequences, and never because a call is of a kind that is not handled;
    * each record of the walk belongs to a call, and its pieces fit together and to the arguments of
      this call. -/
theorem walk_consistent (w : Walker) (b : Bundle) :
    (b.root.WellEscaped b.source → w.attempt b = .ok (w.walk b)) ∧
    (∀ result, w.attempt b = .ok result → result = w.walk b) ∧
    (∀ fault, w.attempt b = .error fault →
      ∃ sequence, fault = .escape sequence ∧ Node.HasMalformed b.source b.root.preorder sequence) ∧
    (∀ kind, w.attempt b ≠ .error (.unhandled kind)) ∧
    (∀ record ∈ (w.walk b).records, ∃ call, (call, record) ∈ w.entries b) ∧
    ∀ call record, (call, record) ∈ w.entries b → record.Fits b.source call := by
  have hends := w.endsIn_attempt b
  refine ⟨fun hform => ?_, fun result => hends.eq_of_ok, fun fault => hends.of_error,
    fun kind hkind => ?_, fun record h => exists_entry h, fun call record he => ?_⟩
  · rcases hends with hok | ⟨sequence, ⟨n, hn, hstring, c, hc, hsymbol, rfl, hnot⟩, -⟩
    · exact hok
    · exact absurd (hform n hn hstring c hc hsymbol) hnot
  · obtain ⟨sequence, hfault, -⟩ := hends.of_error hkind
    cases hfault
  · obtain ⟨-, hrecord⟩ := of_mem_entries he
    obtain ⟨r, hclassify, hbuild⟩ := Option.bind_eq_some_iff.1 hrecord
    exact Extraction.fits_of_build hbuild (Classifier.arguments_of_classify hclassify)

/-- Calls with too many arguments, too few of them, a comment among them, and such that are no
    literals. -/
theorem walk_consistent_of_shapes :
    let text := "(function()\x7b\x7d)(1);m.def(('/a'));m.installed(0,'\\x41');m.main(/**/'/b$2/c','d',m);m.remap()"
    let b : Bundle := ⟨Source.ofText text, (reading text.toList).root⟩
    b.root.WellEscaped b.source ∧ attempt {} b = .ok (walk {} b) ∧
      ((walk {} b).records.map fun r => (r.kind, r.path, r.identity, r.target)) = [
        (.bootstrap, loaderPath, loaderIdentity, ""),
        (.define, "", { packageName := "" }, ""),
        (.installed, "", { packageName := "A" }, ""),
        (.main, "/b$2/c", { packageName := "b", version := "2", fileName := "c" }, "d"),
        (.remap, "", { packageName := "" }, "")] := by
  intro text b
  obtain ⟨hescapes, hrecords⟩ : (∀ n ∈ b.root.preorder, n.kind = .string → ∀ c ∈ n.namedChildren,
      c.symbol = "escape_sequence" → (c.text b.source).toList = ['\\', 'x', '4', '1']) ∧
      ((walk {} b).records.map fun r => (r.kind, r.path, r.identity, r.target)) = [
        (.bootstrap, loaderPath, loaderIdentity, ""),
        (.define, "", { packageName := "" }, ""),
        (.installed, "", { packageName := "A" }, ""),
        (.main, "/b$2/c", { packageName := "b", version := "2", fileName := "c" }, "d"),
        (.remap, "", { packageName := "" }, "")] := by
    decide +kernel
  have hform : b.root.WellEscaped b.source := by
    intro n hn hkind c hc hsymbol
    rw [hescapes n hn hkind c hc hsymbol]
    exact .hex rfl (List.all_eq_true.1 rfl)
  exact ⟨hform, (walk_consistent {} b).1 hform, hrecords⟩

end Walker

end BundleManifest
