import BundleManifest.Proofs.Script.Escape
import BundleManifest.Proofs.Script.Source
import BundleManifest.Proofs.Text.Utf16

/-!
# What string literals stand for

A string literal consists of raw fragments and escape sequences (`Literal.Part`). The units of all of
them together decide on its value: if no surrogate among them is unpaired, it is the text with these
units, and else the literal keeps its raw text.

So it does not matter how a text is spelled (`Literal.Spells`): raw, with escapes of any kind, with
pairs of escapes for characters beyond the first 65536, and with the ends of lines in between.

The value is defined by way of code points, with surrogates among them, and the units of a code point
are one or two. What is shown is that code points and units say the same: the value of a literal is
read from its units as any text in UTF-16 is, and a text that is spelled in any way has the units of
the text.

* `Literal.units_of_spells`: every spelling of a text has the units of the text;
* `Literal.value?_eq`: the value of a literal.
-/

namespace BundleManifest.Script.Literal

/-- A part of a string literal. -/
inductive Part where
  /-- Characters that stand for themselves. -/
  | raw (text : List Char)
  /-- An escape sequence with its backslash. -/
  | escape (text : List Char)
  deriving DecidableEq, Repr

namespace Part

/-- What is written for a part. -/
def text : Part → List Char
  | raw text | escape text => text

/-- The code points that a part stands for. -/
def codes : Part → List Nat
  | raw text => text.map Char.toNat
  | escape text => Escape.value text

/-- Whether a part is an escape sequence. -/
def isEscape : Part → Bool
  | raw _ => false
  | escape _ => true

end Part

/-- A node is a string literal that consists of some parts: these stand between its quotes. -/
structure ConsistsOf (text : List Char) (n : Node) (parts : List Part) : Prop where
  kind : n.kind = .string
  quotes : ∃ first last, n.Covers text (first :: parts.flatMap Part.text ++ [last])
  parts : List.Forall₂ (fun c p => c.Covers text p.text ∧
    (c.symbol = "escape_sequence" ↔ p.isEscape = true)) n.namedChildren parts

/-! ## Spellings -/

/-- The ways to spell a text as the parts of a literal. -/
inductive Spells : List Part → List Char → Prop
  | nil : Spells [] []
  /-- Characters can stand for themselves. -/
  | raw {parts : List Part} {t : List Char} (s : List Char) : Spells parts t →
      Spells (.raw s :: parts) (s ++ t)
  /-- A character can be written as an escape sequence. -/
  | escape {e : List Char} {c : Char} {parts : List Part} {t : List Char} :
      Escape.Writes e c.toNat → Spells parts t → Spells (.escape e :: parts) (c :: t)
  /-- A character with two units can be written as two escape sequences, one for each unit, even on
      several lines. -/
  | pair {first second : List Char} {u v : Nat} {lines : List (List Char)} {c : Char}
      {parts : List Part} {t : List Char} : Utf16.unitsOf c.toNat = [u, v] → Escape.Writes first u →
      (∀ e ∈ lines, Escape.Continues e) → Escape.Writes second v → Spells parts t →
      Spells (.escape first :: (lines.map Part.escape ++ .escape second :: parts)) (c :: t)
  /-- The literal can be continued on the next line anywhere. -/
  | continued {e : List Char} {parts : List Part} {t : List Char} : Escape.Continues e →
      Spells parts t → Spells (.escape e :: parts) t

variable {parts : List Part} {t : List Char}

/-- The escape sequences of a spelling have the forms of such sequences. -/
theorem forms_of_spells (h : Spells parts t) {e : List Char} (he : .escape e ∈ parts) :
    Escape.Form e := by
  induction h with
  | nil => cases he
  | raw s _ ih =>
    rcases List.mem_cons.1 he with he | he
    · cases he
    · exact ih he
  | escape hwrites _ ih =>
    rcases List.mem_cons.1 he with he | he
    · cases he
      exact Escape.form_of_writes hwrites
    · exact ih he
  | pair _ hfirst hlines hsecond _ ih =>
    simp only [List.mem_cons, List.mem_append, List.mem_map, Part.escape.injEq,
      exists_eq_right] at he
    rcases he with rfl | he | rfl | he
    · exact Escape.form_of_writes hfirst
    · exact Escape.form_of_continues (hlines e he)
    · exact Escape.form_of_writes hsecond
    · exact ih he
  | continued hline _ ih =>
    rcases List.mem_cons.1 he with he | he
    · cases he
      exact Escape.form_of_continues hline
    · exact ih he

/-- Lines that are continued stand for no code point. -/
theorem codes_continued {lines : List (List Char)} (h : ∀ e ∈ lines, Escape.Continues e) :
    (lines.map Part.escape).flatMap Part.codes = [] := by
  rw [List.flatMap_eq_nil_iff]
  intro p hp
  obtain ⟨e, he, rfl⟩ := List.mem_map.1 hp
  exact Escape.value_of_continues (h e he)

/-- Every spelling of a text has the units of the text. -/
theorem units_of_spells (h : Spells parts t) :
    Utf16.units (parts.flatMap Part.codes) = Utf16.units (t.map Char.toNat) := by
  induction h with
  | nil => rfl
  | raw s _ ih =>
    rw [List.flatMap_cons, Utf16.units_append, ih, List.map_append, Utf16.units_append]
    rfl
  | escape hwrites _ ih =>
    rw [List.flatMap_cons, Utf16.units_append, ih, Part.codes, Escape.value_of_writes hwrites,
      Utf16.units_singleton, List.map_cons, Utf16.units_cons]
  | @pair first second u v lines c parts t hunits hfirst hlines hsecond _ ih =>
    -- Both halves are units that stand for themselves.
    have hlt : ∀ x ∈ Utf16.unitsOf c.toNat, x < 0x10000 := fun x hx =>
      @Utf16.lt_of_mem_units [c.toNat]
        (fun code hcode => by
          have := Escape.char_le_lastCodePoint c
          rw [List.mem_singleton.1 hcode]
          exact Nat.lt_succ_of_le this)
        x (by rwa [Utf16.units_singleton])
    rw [hunits] at hlt
    rw [List.flatMap_cons, List.flatMap_append, codes_continued hlines, List.nil_append,
      List.flatMap_cons, Part.codes, Part.codes, Escape.value_of_writes hfirst,
      Escape.value_of_writes hsecond, Utf16.units_append, Utf16.units_append, ih,
      Utf16.units_singleton, Utf16.units_singleton, Utf16.unitsOf_of_lt (hlt u (by simp)),
      Utf16.unitsOf_of_lt (hlt v (by simp)), List.map_cons, Utf16.units_cons, hunits]
    rfl
  | continued hline _ ih =>
    rw [List.flatMap_cons, Part.codes, Escape.value_of_continues hline, List.nil_append, ih]

/-! ## Values -/

section Values

variable {text : String} {n : Node}

/-- The named children of a literal stand for what its parts stand for. -/
theorem codes_of_consistsOf (h : ConsistsOf text.toList n parts) :
    n.namedChildren.flatMap (partCodes (Source.ofText text)) = parts.flatMap Part.codes := by
  obtain ⟨-, -, hparts⟩ := h
  generalize n.namedChildren = children at hparts ⊢
  induction hparts with
  | nil => rfl
  | @cons c p children parts hpart _ ih =>
    rw [List.flatMap_cons, List.flatMap_cons, ih, partCodes, hpart.1.text_eq, String.toList_ofList]
    congr 1
    cases p with
    | raw s => exact if_neg fun hsymbol => Bool.false_ne_true (hpart.2.1 hsymbol)
    | escape s => exact if_pos (hpart.2.2 rfl)

/-- The raw text of a literal is what is written for its parts. -/
theorem raw_of_consistsOf (h : ConsistsOf text.toList n parts) :
    raw (Source.ofText text) n = parts.flatMap Part.text := by
  obtain ⟨first, last, hquotes⟩ := h.quotes
  rw [raw, hquotes.text_eq, String.toList_ofList, List.cons_append, List.drop_one, List.tail_cons,
    List.dropLast_concat]

/-- The units of a literal decide on its value, and its raw text is what remains without one. -/
theorem value?_of_consistsOf (h : ConsistsOf text.toList n parts) :
    value? (Source.ofText text) n = some (String.ofList
      ((Utf16.decode? (Utf16.units (parts.flatMap Part.codes))).getD (parts.flatMap Part.text))) := by
  rw [value?, if_pos h.kind, codes_of_consistsOf h, raw_of_consistsOf h]

/-- All parts of a literal stand for code points. -/
theorem codes_lt (parts : List Part) : ∀ code ∈ parts.flatMap Part.codes, code < 0x110000 := by
  intro code hcode
  obtain ⟨p, -, hcode⟩ := List.mem_flatMap.1 hcode
  refine Nat.lt_succ_of_le ?_
  cases p with
  | raw s =>
    obtain ⟨c, -, rfl⟩ := List.mem_map.1 hcode
    exact Escape.char_le_lastCodePoint c
  | escape e => exact Escape.value_le_lastCodePoint e code hcode

end Values

/-- The value of a string literal that consists of raw fragments and escape sequences. Let `w` be the
    units of what these stand for.

    * If every escape sequence has one of the forms of such sequences, then every number in it is the
      number of a code point, and there always is a value. It is the one text with the units `w` if no
      surrogate in `w` is unpaired, and otherwise what is written between the quotes.
    * If the parts spell some text, they have these forms, and the value is this text. -/
theorem value?_eq (text : String) (n : Node) (parts : List Part)
    (h : ConsistsOf text.toList n parts) :
    let w := Utf16.units (parts.flatMap Part.codes)
    ((∀ e, .escape e ∈ parts → Escape.Form e) →
      (∀ e, .escape e ∈ parts → Escape.checkedValue? e = some (Escape.value e)) ∧
      ((∀ i, ¬Utf16.Unpaired w i) → ∃ t : String, value? (Source.ofText text) n = some t ∧
        ∀ t' : String, Utf16.units (t'.toList.map Char.toNat) = w ↔ t' = t) ∧
      ((∃ i, Utf16.Unpaired w i) →
        value? (Source.ofText text) n = some (String.ofList (parts.flatMap Part.text)))) ∧
    ∀ t, Spells parts t → (∀ e, .escape e ∈ parts → Escape.Form e) ∧
      value? (Source.ofText text) n = some (String.ofList t) := by
  intro w
  refine ⟨fun hforms => ⟨fun e he => Escape.checkedValue?_of_form (hforms e he), fun hpaired => ?_,
    fun hunpaired => ?_⟩, fun t ht => ⟨fun e he => forms_of_spells ht he, ?_⟩⟩
  · obtain ⟨t, ht⟩ := Option.isSome_iff_exists.1 ((Utf16.isSome_decode?_iff w).2 hpaired)
    have hunits := Utf16.units_of_decode?
      (fun u hu => Utf16.lt_of_mem_units (codes_lt parts) hu) ht
    refine ⟨String.ofList t, ?_, fun t' => ⟨fun ht' => ?_, ?_⟩⟩
    · rw [value?_of_consistsOf h, ht, Option.getD_some]
    · -- Two texts with the same units are read from them, so they are equal.
      have heq := Utf16.decode?_units t'.toList
      rw [ht', ht] at heq
      rw [Option.some.inj heq, String.ofList_toList]
    · rintro rfl
      rw [String.toList_ofList]
      exact hunits
  · have hnone : Utf16.decode? w = none := by
      rw [← Option.not_isSome_iff_eq_none, Utf16.isSome_decode?_iff]
      obtain ⟨i, hi⟩ := hunpaired
      exact fun hpaired => hpaired i hi
    rw [value?_of_consistsOf h, hnone, Option.getD_none]
  · rw [value?_of_consistsOf h, units_of_spells ht, Utf16.decode?_units, Option.getD_some]

/-- A character with two units, whose second half is on the next line, behind a raw one and before an
    escape of two digits. -/
theorem value?_eq_of_halves :
    let text := "'ü\\ud83d\\\n\\u\x7b00de00\x7d\\x41'"
    let part (start stop : Nat) : Node :=
      { symbol := "escape_sequence", start, stop, point := ⟨0, start⟩ }
    let n : Node := {
      symbol := "string", start := 0, stop := 26, point := ⟨0, 0⟩
      children := [
        { symbol := "'", named := false, start := 0, stop := 1, point := ⟨0, 0⟩ },
        { symbol := "string_fragment", start := 1, stop := 3, point := ⟨0, 1⟩ },
        part 3 9, part 9 11, part 11 21, part 21 25,
        { symbol := "'", named := false, start := 25, stop := 26, point := ⟨0, 25⟩ }] }
    let parts := [Part.raw ['ü'], .escape "\\ud83d".toList, .escape "\\\n".toList,
      .escape "\\u\x7b00de00\x7d".toList, .escape "\\x41".toList]
    ConsistsOf text.toList n parts ∧ Spells parts ['ü', '😀', 'A'] ∧
      value? (Source.ofText text) n = some "ü😀A" := by
  intro text part n parts
  have hconsists : ConsistsOf text.toList n parts := by
    refine ⟨by decide +kernel, ⟨'\'', '\'', by decide +kernel⟩, by decide +kernel⟩
  have hunits : Utf16.unitsOf '😀'.toNat = [0xD83D, 0xDE00] := by decide
  have hfirst : Escape.Writes "\\ud83d".toList 0xD83D :=
    @Escape.Writes.unicode ['d', '8', '3', 'd'] 0xD83D rfl (by decide)
  have hlines : ∀ e ∈ ["\\\n".toList], Escape.Continues e := by
    simpa using Escape.Continues.single rfl
  have hsecond : Escape.Writes "\\u\x7b00de00\x7d".toList 0xDE00 :=
    @Escape.Writes.braced ['0', '0', 'd', 'e', '0', '0'] 0xDE00 (by decide) (by decide)
  have hletter : Escape.Writes "\\x41".toList 'A'.toNat :=
    @Escape.Writes.hex ['4', '1'] 0x41 rfl (by decide)
  have hspells : Spells parts ['ü', '😀', 'A'] :=
    .raw ['ü'] (.pair hunits hfirst hlines hsecond (.escape hletter .nil))
  exact ⟨hconsists, hspells, ((value?_eq text n parts hconsists).2 _ hspells).2⟩

end BundleManifest.Script.Literal
