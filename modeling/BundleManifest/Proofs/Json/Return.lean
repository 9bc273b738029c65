import BundleManifest.Proofs.Json.RoundTrip

/-!
# Carriage returns

The text that is written of a value has no carriage returns, if the layout brings none in: those of
the texts are escaped, as all control characters are. So nothing is lost when the line ends of the
text become line feeds.

The proof is a walk through the writer: digits, escapes, characters, strings, items, entries, each of
which only puts together texts that were seen to have no carriage return before. It is used where
settings or manifests are read back from a file, as reading a file as text changes its line ends.
-/

namespace BundleManifest.Json

variable {limit depth : Option Nat} {l : Layout} {ascii : Bool} {before : List Char}
  {w next : Written}

/-- Whether a layout brings in no carriage returns. -/
def Layout.Unreturning (l : Layout) : Prop :=
  ∀ unit, l.indent = some unit → '\r' ∉ unit

/-- The beginning of a line has no carriage return in it. -/
theorem Layout.Unreturning.line (hl : l.Unreturning) (level : Nat) : '\r' ∉ l.line level := by
  rw [Layout.line]
  cases hunit : l.indent with
  | none => exact List.not_mem_nil
  | some unit => simp [hl unit hunit]

theorem Layout.Unreturning.between (hl : l.Unreturning) (level : Nat) : '\r' ∉ l.between level := by
  have hline := hl.line level
  rw [Layout.between]
  split
  · simp
  · simp [hline]

/-! ## Scalars -/

/-- The characters of a number in base sixteen are digits of it. -/
theorem mem_hex {width n : Nat} {c : Char} (h : c ∈ Text.hex width n) :
    ∃ d < 16, c = Text.hexDigit d := by
  induction width generalizing n with
  | zero => cases h
  | succ width ih =>
    rw [Text.hex, List.mem_append, List.mem_singleton] at h
    rcases h with h | h
    · exact ih h
    · exact ⟨_, Nat.mod_lt _ (by decide), h⟩

theorem return_notMem_hex (width n : Nat) : '\r' ∉ Text.hex width n := by
  have hdigit : ∀ d < 16, '\r' ≠ Text.hexDigit d := by decide
  intro h
  obtain ⟨d, hd, hreturn⟩ := mem_hex h
  exact hdigit d hd hreturn

theorem return_notMem_unitEscape (unit : Nat) : '\r' ∉ unitEscape unit := by
  simp [unitEscape, return_notMem_hex]

/-- A carriage return is written as an escape, as every character below the space is. -/
theorem return_notMem_charText (c : Char) : '\r' ∉ charText ascii c := by
  obtain ⟨e, he, htext⟩ | ⟨-, htext⟩ | ⟨-, -, hcontrol, htext⟩ | ⟨-, htext⟩ :=
    charText_cases ascii c <;> rw [htext]
  · have hne : e ≠ '\r' := by
      rintro rfl
      cases he
    simp [hne.symm]
  · exact return_notMem_unitEscape _
  · rw [List.mem_singleton]
    rintro rfl
    exact absurd hcontrol (by decide)
  · simp [return_notMem_unitEscape]

/-- A string is written without carriage returns, whatever is in it. -/
theorem return_notMem_stringText (s : String) : '\r' ∉ stringText ascii s := by
  simp [stringText, return_notMem_charText]

theorem return_notMem_int (n : Int) : '\r' ∉ (toString n).toList := by
  rw [toList_toString_int, List.mem_append, not_or]
  exact ⟨by split <;> simp, notMem_toDigits rfl _⟩

/-! ## Collections -/

theorem return_notMem_andThen (hw : '\r' ∉ w.text) (hnext : '\r' ∉ next.text) :
    '\r' ∉ (w.andThen next).text := by
  rw [Written.andThen]
  split
  · simp [hw, hnext]
  · exact hw

/-- The items of a list are written without carriage returns if each of them is. -/
theorem return_notMem_printItems (hl : l.Unreturning) {vs : List Value}
    (h : ∀ v ∈ vs, ∀ level, '\r' ∉ (print l level v).text) (level : Nat) (hbefore : '\r' ∉ before) :
    '\r' ∉ (printItems l level before vs).text := by
  induction vs generalizing before with
  | nil => exact List.not_mem_nil
  | cons v vs ih =>
    obtain ⟨hv, hvs⟩ := List.forall_mem_cons.1 h
    rw [printItems]
    split
    · exact List.not_mem_nil
    · exact return_notMem_andThen (return_notMem_andThen hbefore (hv level))
        (ih hvs (hl.between level))

/-- The fields of an object are written without carriage returns if their values are. -/
theorem return_notMem_printEntries (hl : l.Unreturning) {fields : List (String × Value)}
    (h : ∀ field ∈ fields, ∀ level, '\r' ∉ (print l level field.2).text) (level : Nat)
    (hbefore : '\r' ∉ before) :
    '\r' ∉ (printEntries l level before (toEntries fields)).text := by
  induction fields generalizing before with
  | nil => exact List.not_mem_nil
  | cons field fields ih =>
    obtain ⟨hv, hfields⟩ := List.forall_mem_cons.1 h
    have hkey : '\r' ∉ before ++ stringText l.ascii field.1 ++ [':', ' '] := by
      simp [hbefore, return_notMem_stringText]
    have hrest := ih hfields (hl.between level)
    exact return_notMem_andThen (return_notMem_andThen hkey (hv level)) hrest

/-- The text of a plain value has carriage returns only where the layout brings them in. -/
theorem Plain.return_notMem_print {v : Value} (hl : l.Unreturning) (h : Plain limit depth v)
    (level : Nat) :
    '\r' ∉ (print l level v).text := by
  induction h generalizing level with
  | null => simp [print]
  | bool b => cases b <;> simp [print]
  | @int depth n _ =>
    rw [print]
    split
    · exact List.not_mem_nil
    · exact return_notMem_int n
  | text s => exact return_notMem_stringText s
  | @list depth inner vs _ _ ih =>
    rw [print]
    split
    · simp
    · refine return_notMem_andThen (return_notMem_printItems hl ih _ ?_) ?_ <;> simp [hl.line]
  | @record depth inner fields _ _ _ ih =>
    rw [Value.record, print]
    split
    · simp
    · have hentries := return_notMem_printEntries hl ih (level + 1) List.not_mem_nil
      refine return_notMem_andThen (return_notMem_andThen ?_ hentries) ?_ <;> simp [hl.line]

end BundleManifest.Json
