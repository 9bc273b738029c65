/-!
# Results of steps

A step that can fail has a result or an error. Where a result came out of several steps, each of them
had one.
-/

namespace BundleManifest

variable {ε α β : Type}

/-- A result comes out of two steps if the first one has a result with which the second one has it. -/
theorem exists_of_bind {first : Except ε α} {next : α → Except ε β} {b : β}
    (h : first.bind next = .ok b) :
    ∃ a, first = .ok a ∧ next a = .ok b := by
  cases first with
  | error e => cases h
  | ok a => exact ⟨a, rfl, h⟩

/-- A changed result comes out of the result of a step. -/
theorem exists_of_map {r : Except ε α} {f : α → β} {b : β} (h : r.map f = .ok b) :
    ∃ a, r = .ok a ∧ f a = b := by
  cases r with
  | error e => cases h
  | ok a => exact ⟨a, rfl, Except.ok.inj h⟩

end BundleManifest
