import BundleManifest.Proofs.Json.Token

/-!
# Reading values back

A value is read back from the text that is written of it, in every layout that adds nothing but white
space to the beginning of a line, and writes all integers that are not too long for the reader.

The induction is on the value, and what carries it is more than that the value is read back: the text
that follows must be left over, the fuel of the reader must be enough for the text, and the text must
begin with a character that is no white space, so that the reader does not lose anything before it.
All of this is in `Legible`, for every text behind the value and every level of indentation at once.

* `Plain`: the values for which this holds. Their integers are not too long for the reader, and the
  keys of their objects are strings, no two of them equal;
* `Legible`: what is needed of a value inside a list or an object so that this is read back, too.
  There is one lemma for each way to build a value (`legible_null` to `legible_record`);
* `read_write`: every plain value is read back.
-/

namespace BundleManifest.Json

variable {limit depth inner : Option Nat} {l : Layout} {rest : List Char} {c : Char} {v : Value}
  {level fuel : Nat}

/-! ## White space -/

theorem isBlank_iff : isBlank c = true ↔ c = ' ' ∨ c = '\t' ∨ c = '\n' ∨ c = '\r' := by
  simp [isBlank, or_assoc]

theorem skipBlank_cons (h : isBlank c = false) : skipBlank (c :: rest) = c :: rest :=
  List.dropWhile_cons_of_neg (by simp [h])

theorem skipBlank_append {blanks : List Char} (h : ∀ c ∈ blanks, isBlank c = true) :
    skipBlank (blanks ++ rest) = skipBlank rest :=
  List.dropWhile_append_of_pos h

theorem endsNumber_nil : EndsNumber [] := by
  rintro c ⟨⟩

/-- A number ends before a character that none of its parts can begin with. -/
theorem endsNumber_cons (h : c.isDigit = false ∧ c ≠ '.' ∧ c ≠ 'e' ∧ c ≠ 'E') :
    EndsNumber (c :: rest) := by
  rintro _ ⟨⟩
  exact h

/-- White space cannot belong to a number before it. -/
theorem EndsNumber.append {blanks : List Char} (h : ∀ c ∈ blanks, isBlank c = true)
    (hrest : EndsNumber rest) :
    EndsNumber (blanks ++ rest) := by
  cases blanks with
  | nil => exact hrest
  | cons c blanks =>
    refine endsNumber_cons ?_
    obtain rfl | rfl | rfl | rfl := isBlank_iff.1 (h c List.mem_cons_self) <;> decide

/-- Whether a layout adds nothing but white space to the beginning of a line. -/
def Layout.Blank (l : Layout) : Prop :=
  ∀ unit, l.indent = some unit → ∀ c ∈ unit, isBlank c = true

theorem Layout.Blank.line (hl : l.Blank) (level : Nat) : ∀ c ∈ l.line level, isBlank c = true := by
  rw [Layout.line]
  cases hunit : l.indent with
  | none => exact List.forall_mem_nil _
  | some unit =>
    refine List.forall_mem_cons.2 ⟨rfl, fun c hc => ?_⟩
    obtain ⟨copy, hcopy, hc⟩ := List.mem_flatten.1 hc
    rw [List.eq_of_mem_replicate hcopy] at hc
    exact hl unit hunit c hc

/-- Between two items or entries there is a comma, and else nothing but white space. -/
theorem Layout.Blank.between (hl : l.Blank) (level : Nat) :
    ∃ blanks, l.between level = ',' :: blanks ∧ ∀ c ∈ blanks, isBlank c = true := by
  have hline := hl.line level
  rw [Layout.between]
  split
  · exact ⟨[' '], rfl, List.forall_mem_singleton.2 rfl⟩
  · exact ⟨l.line level, rfl, hline⟩

/-- Whether a layout writes every integer that is not too long for a reader. -/
def Layout.Suits (l : Layout) (limit : Option Nat) : Prop :=
  ∀ digits, tooLong limit digits = false → tooLong l.limit digits = false

theorem Layout.suits_of_limit_eq (h : l.limit = limit) : l.Suits limit :=
  fun _ hdigits => h ▸ hdigits

theorem Layout.suits_of_limit_eq_none (h : l.limit = none) : l.Suits limit :=
  fun _ _ => h ▸ rfl

/-! ## Legible values -/

/-- Whether a value can begin with a character. -/
def isOpening (c : Char) : Bool :=
  c.isDigit || c ∈ ['"', '[', '\x7b', '-', 'n', 't', 'f']

/-- No character that opens a value is white space, ends a collection or marks the byte order. -/
theorem ne_of_isOpening (h : isOpening c = true) :
    isBlank c = false ∧ c ≠ ']' ∧ c ≠ '\x7d' ∧ c ≠ '\uFEFF' := by
  refine ⟨Bool.eq_false_iff.2 fun hblank => ?_, ?_, ?_, ?_⟩
  · obtain rfl | rfl | rfl | rfl := isBlank_iff.1 hblank <;> exact absurd h (by decide)
  all_goals
    rintro rfl
    exact absurd h (by decide)

/-- Whether a text begins like a value. -/
def BeginsValue (s : List Char) : Prop :=
  ∃ c more, s = c :: more ∧ isOpening c = true

theorem BeginsValue.append {s : List Char} (h : BeginsValue s) (rest : List Char) :
    BeginsValue (s ++ rest) := by
  obtain ⟨c, more, rfl, hc⟩ := h
  exact ⟨c, more ++ rest, rfl, hc⟩

theorem BeginsValue.skipBlank_eq {s : List Char} (h : BeginsValue s) : skipBlank s = s := by
  obtain ⟨c, more, rfl, hc⟩ := h
  exact skipBlank_cons (ne_of_isOpening hc).1

/-- A value that is read back from the text that is written of it, wherever it stands in a text. -/
structure Legible (limit depth : Option Nat) (l : Layout) (v : Value) : Prop where
  /-- All of the value is written. -/
  complete : ∀ level, (print l level v).complete = true
  begins : ∀ level, BeginsValue (print l level v).text
  /-- The text is read as the value. -/
  value_eq : ∀ level fuel rest, (print l level v).text.length ≤ fuel → EndsNumber rest →
    value limit fuel depth ((print l level v).text ++ rest) = .ok (v, rest)

/-- A value is legible if it is always written to its end, with the same first character, and read
    from there with more fuel than its text has characters behind this one. -/
theorem legible_of_print {opening : Char} {body : Nat → List Char}
    (hopening : isOpening opening = true)
    (hprint : ∀ level, print l level v = ⟨opening :: body level, none⟩)
    (hread : ∀ level fuel rest, (body level).length ≤ fuel → EndsNumber rest →
      value limit (fuel + 1) depth (opening :: (body level ++ rest)) = .ok (v, rest)) :
    Legible limit depth l v := by
  refine ⟨fun level => congrArg Written.complete (hprint level),
    fun level => ⟨opening, _, by rw [hprint], hopening⟩, ?_⟩
  intro level fuel rest hfuel hrest
  rw [hprint] at hfuel ⊢
  obtain ⟨fuel, rfl⟩ := Nat.exists_eq_add_one.2 (Nat.lt_of_lt_of_le (Nat.zero_lt_succ _) hfuel)
  exact hread level fuel rest (Nat.le_of_succ_le_succ hfuel) hrest

/-- Writing goes on behind what is complete. -/
theorem Written.andThen_of_complete {w : Written} (next : Written) (h : w.complete = true) :
    w.andThen next = ⟨w.text ++ next.text, next.obstacle⟩ :=
  if_pos h

/-- Behind a complete text the next one is written, and only its own obstacle is left. -/
theorem Written.andThen_andThen {before : List Char} {w : Written} (next : Written)
    (h : w.complete = true) :
    (andThen ⟨before, none⟩ w).andThen next = ⟨before ++ (w.text ++ next.text), next.obstacle⟩ := by
  have hbefore : andThen ⟨before, none⟩ w = ⟨before ++ w.text, w.obstacle⟩ :=
    andThen_of_complete w rfl
  have hboth : (⟨before ++ w.text, w.obstacle⟩ : Written).complete = true := h
  rw [hbefore, andThen_of_complete next hboth, List.append_assoc]

/-! ## Scalars -/

/-- A text that begins with no quote and no opening bracket is that of a word or a number. -/
theorem value_eq_scalar {s : List Char} (hfuel : 0 < fuel)
    (h : ∀ c, s.head? = some c → c ≠ '"' ∧ c ≠ '[' ∧ c ≠ '\x7b') :
    value limit fuel depth s = scalar limit s := by
  obtain ⟨fuel, rfl⟩ := Nat.exists_eq_add_one.2 hfuel
  rw [value]
  -- Each of the other ways to read a value asks for its own first character.
  · rintro rest rfl
    exact (h '"' rfl).1 rfl
  · rintro rest rfl
    exact (h '[' rfl).2.1 rfl
  · rintro rest rfl
    exact (h '\x7b' rfl).2.2 rfl

/-- A scalar is legible if it is read as a word or a number, and its text does not begin like another
    value. -/
theorem legible_of_scalar {s : List Char} (hprint : ∀ level, print l level v = ⟨s, none⟩)
    (hs : ∃ c more, s = c :: more ∧ isOpening c = true ∧ c ≠ '"' ∧ c ≠ '[' ∧ c ≠ '\x7b')
    (hscalar : ∀ rest, EndsNumber rest → scalar limit (s ++ rest) = .ok (v, rest)) :
    Legible limit depth l v := by
  obtain ⟨c, more, rfl, hbegins, hopen⟩ := hs
  refine legible_of_print hbegins hprint fun level fuel rest hfuel hrest => ?_
  rw [← List.cons_append, value_eq_scalar (Nat.succ_pos fuel), hscalar rest hrest]
  rintro _ ⟨⟩
  exact hopen

theorem legible_null : Legible limit depth l .null :=
  legible_of_scalar (s := "null".toList) (fun _ => rfl) ⟨'n', _, rfl, by decide⟩ fun _ _ => rfl

theorem legible_bool (b : Bool) : Legible limit depth l (.bool b) := by
  cases b with
  | false =>
    exact legible_of_scalar (s := "false".toList) (fun _ => rfl)
      ⟨'f', _, rfl, by decide⟩ fun _ _ => rfl
  | true =>
    exact legible_of_scalar (s := "true".toList) (fun _ => rfl)
      ⟨'t', _, rfl, by decide⟩ fun _ _ => rfl

/-- An integer is written with all of its digits, or not at all if these are too many. -/
theorem print_int {n : Int} (level : Nat) : print l level (.int n) =
    if l.isTooLong (.int n) then .stopped .tooManyDigits else ⟨(toString n).toList, none⟩ :=
  rfl

/-- An integer is read back, unless it has more digits than are read. -/
theorem legible_int {n : Int} (hl : l.Suits limit)
    (h : tooLong limit (Nat.toDigits 10 n.natAbs).length = false) :
    Legible limit depth l (.int n) := by
  have hprint : ∀ level, print l level (.int n) = ⟨(toString n).toList, none⟩ := by
    intro level
    rw [print_int, Layout.isTooLong, hl _ h, if_neg Bool.false_ne_true]
  refine legible_of_scalar (s := (toString n).toList) hprint ?_ fun rest hrest => scalar_int n h hrest
  obtain ⟨d, more, hdigits, hdigit⟩ := exists_toDigits_cons n.natAbs
  rw [toList_toString_int, hdigits]
  split
  · exact ⟨'-', d :: more, rfl, by decide⟩
  · refine ⟨d, more, rfl, by rw [isOpening, hdigit, Bool.true_or], ?_, ?_, ?_⟩
    all_goals
      rintro rfl
      exact absurd hdigit (by decide)

/-- Every string is read back, as each of its characters or escapes is. -/
theorem legible_text (s : String) : Legible limit depth l (.text s) := by
  have hprint (level : Nat) : print l level (.text s) =
      ⟨'"' :: (s.toList.flatMap (charText l.ascii) ++ ['"']), none⟩ := rfl
  refine legible_of_print (by decide) hprint fun level fuel rest hfuel hrest => ?_
  rw [value, List.append_assoc, List.singleton_append, stringFrom_stringText]

/-! ## Brackets -/

/-- A value in brackets is legible if it is read from what stands between these, up to the closing
    one. The first line begins one level deeper than the last one. -/
theorem legible_of_brackets {opening closing : Char} {body : Nat → List Char} (hl : l.Blank)
    (hopening : isOpening opening = true)
    (hprint : ∀ level, print l level v =
      ⟨opening :: (l.line (level + 1) ++ (body (level + 1) ++ (l.line level ++ [closing]))), none⟩)
    (hbody : ∀ level, BeginsValue (body level))
    (hread : ∀ level fuel s blanks rest, (∀ c ∈ blanks, isBlank c = true) →
      skipBlank s = body level ++ (blanks ++ closing :: rest) → (body level).length < fuel →
      value limit (fuel + 1) depth (opening :: s) = .ok (v, rest)) : Legible limit depth l v := by
  refine legible_of_print hopening hprint fun level fuel rest hfuel hrest => ?_
  simp only [List.length_append, List.length_singleton] at hfuel
  simp only [List.append_assoc, List.singleton_append]
  -- The white space behind the opening bracket is skipped, and the one before the closing bracket is
  -- left.
  refine hread (level + 1) fuel _ (l.line level) rest (hl.line level) ?_ (by omega)
  rw [skipBlank_append (hl.line _), ((hbody _).append _).skipBlank_eq]

/-! ## Lists -/

/-- What is written completely is not too long. -/
theorem isTooLong_eq_false (h : (print l level v).complete = true) : l.isTooLong v = false := by
  cases v with
  | int n =>
    rw [print_int] at h
    split at h
    · cases h
    · next hlong => exact Bool.eq_false_iff.2 hlong
  | _ => rfl

/-- The text of some items: what stands before the first of them, the text of this, and the others. -/
theorem printItems_cons (before : List Char) (vs : List Value)
    (h : (print l level v).complete = true) :
    printItems l level before (v :: vs) =
      ⟨before ++ ((print l level v).text ++ (printItems l level (l.between level) vs).text),
        (printItems l level (l.between level) vs).obstacle⟩ := by
  rw [printItems, isTooLong_eq_false h, if_neg Bool.false_ne_true, Written.andThen_andThen _ h]

/-- A list of legible values is written to its end. -/
theorem complete_printItems {vs : List Value} (h : ∀ v ∈ vs, Legible limit depth l v)
    (before : List Char) :
    (printItems l level before vs).complete = true := by
  induction vs generalizing before with
  | nil => rfl
  | cons v vs ih =>
    rw [printItems_cons _ _ ((h v List.mem_cons_self).complete level)]
    exact ih (fun w hw => h w (List.mem_cons_of_mem v hw)) _

theorem beginsValue_printItems (vs : List Value) (h : Legible limit depth l v) :
    BeginsValue (printItems l level [] (v :: vs)).text := by
  rw [printItems_cons _ _ (h.complete level), List.nil_append]
  exact (h.begins level).append _

/-- The last item of a list is read, and then the list ends. -/
theorem items_last {acc : List Value} {s behind : List Char}
    (hv : value limit fuel depth s = .ok (v, behind)) (hbehind : skipBlank behind = ']' :: rest) :
    items limit (fuel + 1) depth acc s = .ok (.list (acc.reverse ++ [v]), rest) := by
  rw [items, hv]
  simp only [hbehind, List.reverse_cons]

/-- An item is read, and then the others. -/
theorem items_more {acc : List Value} {s behind : List Char}
    (hv : value limit fuel depth s = .ok (v, behind)) (hbehind : skipBlank behind = ',' :: rest) :
    items limit (fuel + 1) depth acc s = items limit fuel depth (v :: acc) (skipBlank rest) := by
  rw [items, hv]
  simp only [hbehind]

/-- Legible items are read from their text, up to the end of the list. -/
theorem items_printItems (hl : l.Blank) {blanks : List Char}
    (hblanks : ∀ c ∈ blanks, isBlank c = true)
    {vs : List Value} (h : ∀ w ∈ v :: vs, Legible limit depth l w) (acc : List Value)
    (hfuel : (printItems l level [] (v :: vs)).text.length < fuel) :
    items limit fuel depth acc ((printItems l level [] (v :: vs)).text ++ (blanks ++ ']' :: rest)) =
      .ok (.list (acc.reverse ++ v :: vs), rest) := by
  -- By induction on the items behind the first one, with those read so far and the fuel left open. No
  -- item is empty, and so there is always more fuel than text.
  induction vs generalizing v acc fuel with
  | nil =>
    obtain ⟨hv, -⟩ := List.forall_mem_cons.1 h
    obtain ⟨fuel, rfl⟩ := Nat.exists_eq_add_one.2 (Nat.zero_lt_of_lt hfuel)
    rw [printItems_cons _ _ (hv.complete level), printItems, List.nil_append, List.append_nil]
      at hfuel ⊢
    refine items_last (hv.value_eq level fuel _ (Nat.le_of_lt_succ hfuel) ?_) ?_
    · exact .append hblanks (endsNumber_cons (by decide))
    · rw [skipBlank_append hblanks, skipBlank_cons (by decide)]
  | cons w vs ih =>
    obtain ⟨hv, hvs⟩ := List.forall_mem_cons.1 h
    obtain ⟨fuel, rfl⟩ := Nat.exists_eq_add_one.2 (Nat.zero_lt_of_lt hfuel)
    obtain ⟨spaces, hbetween, hspaces⟩ := hl.between level
    have hw := hvs w List.mem_cons_self
    -- The text of the others, as it is without the comma before it.
    have htext : (printItems l level [] (v :: w :: vs)).text =
        (print l level v).text ++ (',' :: (spaces ++ (printItems l level [] (w :: vs)).text)) := by
      rw [printItems_cons _ _ (hv.complete level), printItems_cons _ _ (hw.complete level),
        printItems_cons _ _ (hw.complete level), hbetween]
      rfl
    rw [htext] at hfuel ⊢
    simp only [List.length_append, List.length_cons] at hfuel
    simp only [List.append_assoc, List.cons_append]
    rw [items_more (hv.value_eq level fuel _ (by omega) (endsNumber_cons (by decide)))
        (skipBlank_cons (by decide)),
      skipBlank_append hspaces, ((beginsValue_printItems vs hw).append _).skipBlank_eq,
      ih hvs _ (by omega), List.reverse_cons, List.append_assoc, List.singleton_append]

/-- A list that does not end at once has items. -/
theorem value_eq_items {s t : List Char} (hdepth : inside? depth = some inner)
    (hskip : skipBlank s = t)
    (ht : BeginsValue t) : value limit (fuel + 1) depth ('[' :: s) = items limit fuel inner [] t := by
  obtain ⟨c, more, rfl, hc⟩ := ht
  rw [value, hdepth]
  dsimp only
  rw [hskip]
  split
  · next hclose => exact absurd (List.cons.inj hclose).1 (ne_of_isOpening hc).2.1
  · rfl

/-- The text of a list with items: brackets around the lines of the items. -/
theorem print_list_cons {vs : List Value} (h : ∀ w ∈ v :: vs, Legible limit depth l w) (level : Nat) :
    print l level (.list (v :: vs)) =
      ⟨'[' :: (l.line (level + 1) ++ ((printItems l (level + 1) [] (v :: vs)).text ++
        (l.line level ++ [']']))), none⟩ := by
  have hv := (h v List.mem_cons_self).complete (level + 1)
  have hprint : print l level (.list (v :: vs)) =
      (printItems l (level + 1) ('[' :: l.line (level + 1)) (v :: vs)).andThen
      ⟨l.line level ++ [']'], none⟩ := rfl
  rw [hprint, Written.andThen_of_complete _ (complete_printItems h _), printItems_cons _ _ hv,
    printItems_cons [] _ hv]
  simp only [List.cons_append, List.append_assoc, List.nil_append]

/-- A list is read back if its items are, one level further inside. -/
theorem legible_list (hl : l.Blank) (hdepth : inside? depth = some inner) {vs : List Value}
    (h : ∀ v ∈ vs, Legible limit inner l v) : Legible limit depth l (.list vs) := by
  cases vs with
  | nil =>
    have hprint (level : Nat) : print l level (.list []) = ⟨['[', ']'], none⟩ := rfl
    refine legible_of_print (by decide) hprint fun level fuel rest hfuel hrest => ?_
    rw [value, hdepth]
    rfl
  | cons v vs =>
    have hbegins (level : Nat) : BeginsValue (printItems l level [] (v :: vs)).text :=
      beginsValue_printItems vs (h v List.mem_cons_self)
    refine legible_of_brackets hl (by decide) (print_list_cons h) hbegins ?_
    intro level fuel s blanks rest hblanks hskip hfuel
    rw [value_eq_items hdepth hskip ((hbegins level).append _),
      items_printItems hl hblanks h [] hfuel, List.reverse_nil, List.nil_append]

/-! ## Objects -/

/-- Fields as the entries of a mapping. -/
def toEntries (fields : List (String × Value)) : List (Value × Value) :=
  fields.map fun field => (.text field.1, field.2)

variable {fields done : List (String × Value)} {key : String}

/-- A new key comes behind the others. -/
theorem insert_toEntries (h : ∀ field ∈ done, field.1 ≠ key) :
    Value.insert (.text key) v (toEntries done) = toEntries (done ++ [(key, v)]) := by
  induction done with
  | nil => rfl
  | cons field done ih =>
    obtain ⟨hne, hdone⟩ := List.forall_mem_cons.1 h
    have hkey : (Value.text field.1).sameKey (.text key) = false := by simp [Value.sameKey, hne]
    rw [toEntries, List.map_cons, Value.insert, hkey, if_neg Bool.false_ne_true]
    exact congrArg _ (ih hdone)

/-- The text of some entries: what stands before the first of them, the text of this, and the
    others. -/
theorem printEntries_cons (before : List Char) (key : String) (fields : List (String × Value))
    (h : (print l level v).complete = true) :
    printEntries l level before (toEntries ((key, v) :: fields)) =
      ⟨before ++ (stringText l.ascii key ++ (':' :: ' ' :: ((print l level v).text ++
          (printEntries l level (l.between level) (toEntries fields)).text))),
        (printEntries l level (l.between level) (toEntries fields)).obstacle⟩ := by
  have hkey : l.isTooLong (.text key) = false := rfl
  rw [toEntries, List.map_cons, printEntries, hkey, if_neg Bool.false_ne_true, keyText?]
  dsimp only
  rw [Written.andThen_andThen _ h]
  simp [toEntries]

/-- An object with legible values is written to its end. -/
theorem complete_printEntries (h : ∀ field ∈ fields, Legible limit depth l field.2)
    (before : List Char) :
    (printEntries l level before (toEntries fields)).complete = true := by
  induction fields generalizing before with
  | nil => rfl
  | cons field fields ih =>
    obtain ⟨hv, hfields⟩ := List.forall_mem_cons.1 h
    rw [printEntries_cons _ _ _ (hv.complete level)]
    exact ih hfields _

/-- The text of the fields begins with the quote of the first key. -/
theorem beginsValue_printEntries {field : String × Value} (fields : List (String × Value))
    (h : Legible limit depth l field.2) :
    BeginsValue (printEntries l level [] (toEntries (field :: fields))).text := by
  rw [printEntries_cons _ _ _ (h.complete level)]
  exact ⟨'"', _, rfl, by decide⟩

/-- An entry with a new key is read. -/
theorem entries_step {s behind : List Char} (hs : BeginsValue s)
    (hv : value limit fuel depth s = .ok (v, behind)) (hnew : ∀ field ∈ done, field.1 ≠ key) :
    entries limit (fuel + 1) depth (toEntries done) (stringText l.ascii key ++ (':' :: ' ' :: s)) =
      match skipBlank behind with
      | '\x7d' :: rest => .ok (.record (done ++ [(key, v)]), rest)
      | ',' :: rest => entries limit fuel depth (toEntries (done ++ [(key, v)])) (skipBlank rest)
      | rest => .error (.fault .commaExpected rest) := by
  have hspace : skipBlank (' ' :: s) = s :=
    (skipBlank_append (List.forall_mem_singleton.2 rfl)).trans hs.skipBlank_eq
  rw [stringText, List.cons_append, List.cons_append, entries, List.append_assoc,
    List.singleton_append, stringFrom_stringText]
  simp only [skipBlank_cons (c := ':') (by decide), hspace, hv, insert_toEntries hnew]
  rfl

/-- The last entry of an object is read, and then the object ends. -/
theorem entries_last {s behind : List Char} (hs : BeginsValue s)
    (hv : value limit fuel depth s = .ok (v, behind))
    (hnew : ∀ field ∈ done, field.1 ≠ key) (hbehind : skipBlank behind = '\x7d' :: rest) :
    entries limit (fuel + 1) depth (toEntries done) (stringText l.ascii key ++ (':' :: ' ' :: s)) =
      .ok (.record (done ++ [(key, v)]), rest) := by
  rw [entries_step hs hv hnew, hbehind]
  rfl

/-- An entry is read, and then the others. -/
theorem entries_more {s behind : List Char} (hs : BeginsValue s)
    (hv : value limit fuel depth s = .ok (v, behind))
    (hnew : ∀ field ∈ done, field.1 ≠ key) (hbehind : skipBlank behind = ',' :: rest) :
    entries limit (fuel + 1) depth (toEntries done) (stringText l.ascii key ++ (':' :: ' ' :: s)) =
      entries limit fuel depth (toEntries (done ++ [(key, v)])) (skipBlank rest) := by
  rw [entries_step hs hv hnew, hbehind]
  rfl

/-- Of different keys the one behind others is new among them. -/
theorem ne_of_nodup (h : ((done ++ (key, v) :: fields).map Prod.fst).Nodup) :
    ∀ field ∈ done, field.1 ≠ key := by
  rw [List.map_append, List.map_cons, List.nodup_append] at h
  exact fun field hfield => h.2.2 _ (List.mem_map_of_mem hfield) _ List.mem_cons_self

/-- Legible entries with different keys are read from their text, up to the end of the object. -/
theorem entries_printEntries (hl : l.Blank) {blanks : List Char}
    (hblanks : ∀ c ∈ blanks, isBlank c = true)
    (h : ∀ field ∈ (key, v) :: fields, Legible limit depth l field.2)
    (hkeys : ((done ++ (key, v) :: fields).map Prod.fst).Nodup)
    (hfuel : (printEntries l level [] (toEntries ((key, v) :: fields))).text.length < fuel) :
    entries limit fuel depth (toEntries done)
        ((printEntries l level [] (toEntries ((key, v) :: fields))).text ++
          (blanks ++ '\x7d' :: rest)) =
      .ok (.record (done ++ (key, v) :: fields), rest) := by
  -- By induction on the entries behind the first one. Those read so far are the fields `done`.
  induction fields generalizing key v done fuel with
  | nil =>
    have hv : Legible limit depth l v := h _ List.mem_cons_self
    obtain ⟨fuel, rfl⟩ := Nat.exists_eq_add_one.2 (Nat.zero_lt_of_lt hfuel)
    have htext : (printEntries l level [] (toEntries [(key, v)])).text =
        stringText l.ascii key ++ (':' :: ' ' :: (print l level v).text) := by
      rw [printEntries_cons _ _ _ (hv.complete level)]
      simp [toEntries, printEntries]
    rw [htext] at hfuel ⊢
    simp only [List.length_append, List.length_cons] at hfuel
    simp only [List.append_assoc, List.cons_append]
    refine entries_last ((hv.begins level).append _) (hv.value_eq level fuel _ (by omega) ?_)
      (ne_of_nodup hkeys) ?_
    · exact .append hblanks (endsNumber_cons (by decide))
    · rw [skipBlank_append hblanks, skipBlank_cons (by decide)]
  | cons field fields ih =>
    obtain ⟨key', w⟩ := field
    have hv : Legible limit depth l v := h _ List.mem_cons_self
    have hfields := (List.forall_mem_cons.1 h).2
    have hw : Legible limit depth l w := hfields _ List.mem_cons_self
    obtain ⟨fuel, rfl⟩ := Nat.exists_eq_add_one.2 (Nat.zero_lt_of_lt hfuel)
    obtain ⟨spaces, hbetween, hspaces⟩ := hl.between level
    -- The text of the others, as it is without the comma before it.
    have htext : (printEntries l level [] (toEntries ((key, v) :: (key', w) :: fields))).text =
        stringText l.ascii key ++ (':' :: ' ' :: ((print l level v).text ++
          (',' :: (spaces ++
            (printEntries l level [] (toEntries ((key', w) :: fields))).text)))) := by
      rw [printEntries_cons _ _ _ (hv.complete level), printEntries_cons _ _ _ (hw.complete level),
        printEntries_cons _ _ _ (hw.complete level), hbetween]
      rfl
    rw [htext] at hfuel ⊢
    simp only [List.length_append, List.length_cons] at hfuel
    simp only [List.append_assoc, List.cons_append]
    rw [entries_more ((hv.begins level).append _)
        (hv.value_eq level fuel _ (by omega) (endsNumber_cons (by decide))) (ne_of_nodup hkeys)
        (skipBlank_cons (by decide)),
      skipBlank_append hspaces, ((beginsValue_printEntries fields hw).append _).skipBlank_eq,
      ih hfields (by rwa [List.append_assoc]) (by omega), List.append_assoc, List.singleton_append]

/-- An object that does not end at once has entries. -/
theorem value_eq_entries {s t : List Char} (hdepth : inside? depth = some inner)
    (hskip : skipBlank s = t) (ht : BeginsValue t) :
    value limit (fuel + 1) depth ('\x7b' :: s) = entries limit fuel inner (toEntries []) t := by
  obtain ⟨c, more, rfl, hc⟩ := ht
  rw [value, hdepth]
  dsimp only
  rw [hskip]
  split
  · next hclose => exact absurd (List.cons.inj hclose).1 (ne_of_isOpening hc).2.2.1
  · rfl

/-- The text of an object with entries: brackets around the lines of the entries. -/
theorem print_record_cons (h : ∀ field ∈ (key, v) :: fields, Legible limit depth l field.2)
    (level : Nat) :
    print l level (.record ((key, v) :: fields)) =
      ⟨'\x7b' :: (l.line (level + 1) ++
        ((printEntries l (level + 1) [] (toEntries ((key, v) :: fields))).text ++
        (l.line level ++ ['\x7d']))), none⟩ := by
  have hprint : print l level (.record ((key, v) :: fields)) =
      (Written.andThen ⟨'\x7b' :: l.line (level + 1), none⟩
        (printEntries l (level + 1) [] (toEntries ((key, v) :: fields)))).andThen
        ⟨l.line level ++ ['\x7d'], none⟩ := rfl
  rw [hprint, Written.andThen_andThen _ (complete_printEntries h []), List.cons_append]

/-- An object is read back if its values are, and no key occurs twice. -/
theorem legible_record (hl : l.Blank) (hdepth : inside? depth = some inner)
    (hkeys : (fields.map Prod.fst).Nodup)
    (h : ∀ field ∈ fields, Legible limit inner l field.2) :
    Legible limit depth l (.record fields) := by
  cases fields with
  | nil =>
    have hprint (level : Nat) : print l level (.record []) = ⟨['\x7b', '\x7d'], none⟩ := rfl
    refine legible_of_print (by decide) hprint fun level fuel rest hfuel hrest => ?_
    rw [value, hdepth]
    rfl
  | cons field fields =>
    obtain ⟨key, v⟩ := field
    have hbegins (level : Nat) :
        BeginsValue (printEntries l level [] (toEntries ((key, v) :: fields))).text :=
      beginsValue_printEntries fields (h (key, v) List.mem_cons_self)
    refine legible_of_brackets hl (by decide) (print_record_cons h) hbegins ?_
    intro level fuel s blanks rest hblanks hskip hfuel
    rw [value_eq_entries hdepth hskip ((hbegins level).append _),
      entries_printEntries hl hblanks h hkeys hfuel, List.nil_append]

/-! ## Plain values -/

/-- A value that can be read back: its integers are not too long for the reader, its mappings have
    different texts as keys, and it does not need more brackets than can be opened. -/
inductive Plain (limit : Option Nat) : Option Nat → Value → Prop
  | null {depth : Option Nat} : Plain limit depth .null
  | bool {depth : Option Nat} (b : Bool) : Plain limit depth (.bool b)
  | int {depth : Option Nat} {n : Int} (h : tooLong limit (Nat.toDigits 10 n.natAbs).length = false) :
      Plain limit depth (.int n)
  | text {depth : Option Nat} (s : String) : Plain limit depth (.text s)
  | list {depth inner : Option Nat} {vs : List Value} (hdepth : inside? depth = some inner)
      (h : ∀ v ∈ vs, Plain limit inner v) : Plain limit depth (.list vs)
  | record {depth inner : Option Nat} {fields : List (String × Value)}
      (hdepth : inside? depth = some inner)
      (hkeys : (fields.map Prod.fst).Nodup) (h : ∀ field ∈ fields, Plain limit inner field.2) :
      Plain limit depth (.record fields)

/-- Every plain value is legible in every layout that adds nothing but white space. -/
theorem Plain.legible (hl : l.Blank) (hlimit : l.Suits limit) (h : Plain limit depth v) :
    Legible limit depth l v := by
  induction h with
  | null => exact legible_null
  | bool b => exact legible_bool b
  | int h => exact legible_int hlimit h
  | text s => exact legible_text s
  | list hdepth h ih => exact legible_list hl hdepth ih
  | record hdepth hkeys h ih => exact legible_record hl hdepth hkeys ih

/-- The text of a list of plain values stands in brackets. -/
theorem write_list {vs : List Value} (hl : l.Blank) (hlimit : l.Suits limit)
    (h : ∀ v ∈ vs, Plain limit depth v) :
    ∃ inside, (write l (.list vs)).text = '[' :: (inside ++ [']']) := by
  cases vs with
  | nil => exact ⟨[], rfl⟩
  | cons v vs =>
    rw [write, print_list_cons fun w hw => (h w hw).legible hl hlimit]
    refine ⟨l.line 1 ++ ((printItems l 1 [] (v :: vs)).text ++ l.line 0), ?_⟩
    rw [List.append_assoc, List.append_assoc]

/-- Every plain value is read back from its text, also if there is white space behind it. -/
theorem read_write (hl : l.Blank) (hlimit : l.Suits limit) (h : Plain limit depth v)
    {blanks : List Char} (hblanks : ∀ c ∈ blanks, isBlank c = true) :
    read ((write l v).text ++ blanks) limit depth = .ok v := by
  have hv := h.legible hl hlimit
  have hbegins : BeginsValue ((write l v).text ++ blanks) := (hv.begins 0).append blanks
  -- No value begins with a byte order mark.
  have hmark : ((write l v).text ++ blanks).head? ≠ some '\uFEFF' := by
    obtain ⟨c, more, heq, hc⟩ := hbegins
    rw [heq]
    exact fun hmark => (ne_of_isOpening hc).2.2.2 (Option.some.inj hmark)
  have hvalue :
      value limit (2 * ((write l v).text ++ blanks).length + 2) depth ((write l v).text ++ blanks) =
      .ok (v, blanks) := by
    refine hv.value_eq 0 _ blanks ?_ ?_
    · rw [List.length_append, write]
      omega
    · rw [← List.append_nil blanks]
      exact .append hblanks endsNumber_nil
  have hend : skipBlank blanks = [] := by
    rw [← List.append_nil blanks, skipBlank_append hblanks]
    rfl
  rw [read, if_neg hmark, hbegins.skipBlank_eq, hvalue]
  simp only [hend]

end BundleManifest.Json
