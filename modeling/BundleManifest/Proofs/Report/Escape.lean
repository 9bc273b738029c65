import BundleManifest.Proofs.Report.Markup

/-!
# Escaped texts

When a text is escaped, its cut stays the same but for the backslashes before tags (`cut_escapeTags`).
Their number is odd then, and so no tag is left: the strips of the text are shown one by one, as texts
without tags (`Cut.pieces_escaped`).

A strip is shown as it is if it is `Kept`. A whole text is if it is `Steady`: if all its strips are
kept, and it has no single backslash at its end, to which another one would be added
(`flatMap_shown_closing_iff`).

What is in the text of a message cannot make a tag, as every tag in it gets backslashes: twice as many
as it had, and one more. The reader of markup takes pairs of them for one and drops the last, so that
the number of backslashes is what it was. A single backslash at the end of the message would escape
what follows, and this is why it gets a companion; that it is not taken away again is the reason why
such messages are not shown as they are.
-/

namespace BundleManifest.Report.Markup

variable {s t tag rest : List Char} {c : Char} {n : Nat}

/-! ## Escaped tags -/

/-- A tag with its backslashes twice, and one more. -/
def Tagged.escaped (t : Tagged) : Tagged :=
  { t with slashes := 2 * t.slashes + 1 }

/-- A cut with its tags escaped. -/
def Cut.escaped (c : Cut) : Cut :=
  { c with tagged := c.tagged.map Tagged.escaped }

/-- Escaping a text is escaping the tags at which it is cut. -/
theorem escapeTags_eq (s : List Char) : escapeTags s = (cut s).escaped.text := by
  fun_induction escapeTags s with
  | case1 s n tag found ih =>
    rw [ih, cut_of_escapedTag? found]
    simp [Cut.escaped, Cut.text, Cut.strips, Tagged.escaped, Tagged.strips]
  | case2 => simp [Cut.escaped, Cut.text, Cut.strips]
  | case3 c rest found ih =>
    rw [ih, cut_cons found]
    simp [Cut.escaped, Cut.text, Cut.strips]

@[simp]
theorem escapeTags_nil : escapeTags [] = [] := by
  rw [escapeTags]
  rfl

/-- A tag is escaped with its backslashes twice and one more, whatever follows. -/
theorem escapeTags_tagText (h : IsTag tag) :
    escapeTags (tagText n tag ++ rest) = tagText (2 * n + 1) tag ++ escapeTags rest := by
  rw [escapeTags_eq, escapeTags_eq, cut_tagText h]
  exact Cut.text_tagged _ _ (cut rest).escaped

theorem escapeTags_cons (h : escapedTag? (c :: rest) = none) :
    escapeTags (c :: rest) = c :: escapeTags rest := by
  rw [escapeTags_eq, escapeTags_eq, cut_cons h]
  exact Cut.text_cons _ (cut rest).escaped

/-- The next bracket of a text is a closing one exactly if it is so with the tags escaped. -/
theorem exists_of_escapeTags_eq (hopen : '[' ∉ t) (hclose : ']' ∉ t)
    (h : escapeTags s = t ++ ']' :: rest) : ∃ rest, s = t ++ ']' :: rest := by
  induction s using induction_tags generalizing t with
  | nil => simp at h
  | tag n tag behind htag ih =>
    -- The next bracket is the one of the tag.
    rw [escapeTags_tagText htag] at h
    have hnext := congrArg (List.find? fun c => c = '[' || c = ']') h
    have hnone : t.find? (fun c => c = '[' || c = ']') = none :=
      List.find?_eq_none.2 fun d hd => by
        simp [ne_of_mem_of_not_mem hd hopen, ne_of_mem_of_not_mem hd hclose]
    simp [tagText, hnone] at hnext
  | cons c behind hnone ih =>
    rw [escapeTags_cons hnone] at h
    cases t with
    | nil =>
      rw [List.nil_append, List.cons.injEq] at h
      exact ⟨behind, by rw [h.1]; rfl⟩
    | cons d t =>
      rw [List.cons_append, List.cons.injEq] at h
      rw [List.mem_cons, not_or] at hopen hclose
      obtain ⟨rest, rfl⟩ := ih hopen.2 hclose.2 h.2
      exact ⟨rest, by rw [h.1]; rfl⟩

/-- Where no tag begins none does after escaping, as what was added stands before other tags. -/
theorem escapedTag?_escapeTags (h : escapedTag? s = none) : escapedTag? (escapeTags s) = none := by
  induction s using induction_tags with
  | nil => simp
  | tag n tag rest htag ih => simp [escapedTag?_tagText htag] at h
  | cons c rest hnone ih =>
    rw [escapeTags_cons hnone]
    by_cases hslash : c = '\\'
    · subst hslash
      rw [escapedTag?_backslash] at hnone ⊢
      exact ih hnone
    · by_cases hopen : c = '['
      · subst hopen
        rw [escapedTag?_bracket] at hnone ⊢
        intro tag behind htag heq
        obtain ⟨behind, rfl⟩ := exists_of_escapeTags_eq htag.2.1 htag.2.2 heq
        exact hnone tag behind htag rfl
      · exact escapedTag?_of_ne hslash hopen

/-- The cut of a text with its tags escaped. -/
theorem cut_escapeTags (s : List Char) : cut (escapeTags s) = (cut s).escaped := by
  induction s using induction_tags with
  | nil => simp [Cut.escaped]
  | tag n tag rest htag ih =>
    rw [escapeTags_tagText htag, cut_tagText htag, cut_tagText htag, ih]
    rfl
  | cons c rest hnone ih =>
    have hescaped := escapedTag?_escapeTags hnone
    rw [escapeTags_cons hnone] at hescaped ⊢
    rw [cut_cons hescaped, cut_cons hnone, ih]
    rfl

/-! ## A backslash at the end -/

theorem takeWhile_reverse_of_getLast? {p : Char → Bool} (h : ∀ c, s.getLast? = some c → p c = false) :
    s.reverse.takeWhile p = [] := by
  rw [List.getLast?_eq_head?_reverse] at h
  cases hs : s.reverse with
  | nil => rfl
  | cons c rest =>
    rw [hs] at h
    exact List.takeWhile_cons_of_neg (by simp [h c rfl])

/-- A backslash at the end makes no tag of what is none. -/
theorem escapedTag?_append_backslash (h : escapedTag? s = none) :
    escapedTag? (s ++ ['\\']) = none := by
  by_contra hsome
  obtain ⟨⟨n, tag⟩, hfound⟩ := Option.ne_none_iff_exists'.1 hsome
  obtain ⟨htag, rest, heq⟩ := escapedTag?_eq_some_iff.1 hfound
  rcases List.eq_nil_or_concat rest with rfl | ⟨behind, c, rfl⟩
  · -- The tag ends with a bracket.
    have hlast := congrArg List.getLast? heq
    rw [List.append_nil, getLast?_tagText, List.getLast?_concat] at hlast
    exact absurd (Option.some.inj hlast) (by decide)
  · rw [List.concat_eq_append, ← List.append_assoc] at heq
    obtain rfl := (List.append_inj' heq rfl).1
    simp [escapedTag?_tagText htag] at h

/-- A backslash at the end is not part of any tag, and is left alone. -/
theorem escapeTags_append_backslash (s : List Char) :
    escapeTags (s ++ ['\\']) = escapeTags s ++ ['\\'] := by
  induction s using induction_tags with
  | nil =>
    rw [List.nil_append, escapeTags_cons (escapedTag?_backslash.2 escapedTag?_nil)]
    simp
  | tag n tag rest htag ih =>
    rw [List.append_assoc, escapeTags_tagText htag, escapeTags_tagText htag, ih, List.append_assoc]
  | cons c rest hnone ih =>
    have happend := escapedTag?_append_backslash hnone
    rw [List.cons_append] at happend ⊢
    rw [escapeTags_cons happend, escapeTags_cons hnone, ih]
    rfl

/-- Escaping tags does not change the last character: a tag ends with its bracket. -/
theorem getLast?_escapeTags (s : List Char) : (escapeTags s).getLast? = s.getLast? := by
  induction s using induction_tags with
  | nil => simp
  | tag n tag rest htag ih =>
    rw [escapeTags_tagText htag, List.getLast?_append, List.getLast?_append, ih, getLast?_tagText,
      getLast?_tagText]
  | cons c rest hnone ih => rw [escapeTags_cons hnone, List.getLast?_cons, List.getLast?_cons, ih]

/-- Escaping keeps the backslashes at the end. -/
theorem takeWhile_reverse_escapeTags (s : List Char) :
    (escapeTags s).reverse.takeWhile isBackslash = s.reverse.takeWhile isBackslash := by
  induction s using List.reverseRecOn with
  | nil => simp
  | append_singleton s c ih =>
    by_cases hc : c = '\\'
    · subst hc
      rw [escapeTags_append_backslash]
      simp [isBackslash, ih]
    · obtain ⟨t, ht⟩ :=
        List.getLast?_eq_some_iff.1 ((getLast?_escapeTags _).trans List.getLast?_concat)
      rw [ht]
      simp [isBackslash, hc]

/-- What is added to a text when it is escaped: a backslash, if a single one is at its end. -/
def closing (s : List Char) : List Char :=
  if (s.reverse.takeWhile isBackslash).length = 1 then ['\\'] else []

theorem notMem_closing (hc : c ≠ '\\') (s : List Char) : c ∉ closing s := by
  unfold closing
  split <;> simp [hc]

/-- An escaped text is the text with its closing backslash, with its tags escaped. -/
theorem escape_eq (s : List Char) : escape s = escapeTags (s ++ closing s) := by
  rw [escape, closing, takeWhile_reverse_escapeTags]
  split
  · rw [escapeTags_append_backslash]
  · rw [List.append_nil]

/-! ## What is shown for an escaped text -/

/-- An escaped tag is no tag any more: it comes out as pieces of text. -/
theorem Tagged.pieces_escaped (t : Tagged) : t.escaped.pieces = t.strips.flatMap textPiece := by
  have hhalf : (2 * t.slashes + 1) / 2 = t.slashes := by omega
  have hodd : (2 * t.slashes + 1) % 2 = 1 := by omega
  simp [pieces, escaped, strips, hhalf, hodd, textPiece]

/-- No strip of an escaped text is a tag. -/
theorem Cut.pieces_escaped (c : Cut) :
    textPiece c.escaped.run ++ c.escaped.tagged.flatMap Tagged.pieces =
      c.strips.flatMap textPiece := by
  rw [strips, List.flatMap_cons, escaped, List.flatMap_map, List.flatMap_assoc]
  exact congrArg (_ ++ ·) (List.flatMap_congr fun t _ => t.pieces_escaped)

/-- The first backslash that is left out of some strips, if there is one, makes their text differ
    there. -/
theorem flatMap_unescaped_cases (l : List (List Char)) :
    (∀ s ∈ l, unescaped s = s) ∨
      ∃ before after others, l.flatten = before ++ '\\' :: after ∧
        l.flatMap unescaped = before ++ '[' :: others := by
  induction l with
  | nil => exact .inl (by simp)
  | cons s l ih =>
    rw [List.flatten_cons, List.flatMap_cons]
    rcases unescaped_cases s with hs | ⟨before, after, others, hs, heq⟩
    · rcases ih with hl | ⟨before, after, others, hl, heq⟩
      · exact .inl (List.forall_mem_cons.2 ⟨hs, hl⟩)
      · exact .inr ⟨s ++ before, after, others, by rw [hl, List.append_assoc],
          by rw [hs, heq, List.append_assoc]⟩
    · exact .inr ⟨before, after ++ l.flatten, others ++ l.flatMap unescaped, by rw [hs]; simp,
        by rw [heq]; simp⟩

/-! ## Texts that are shown as they are -/

variable [Console]

/-- A text without tags that is shown as it is. -/
structure Kept (s : List Char) : Prop where
  /-- No name in it is that of a picture. -/
  free : Emoji.Free s
  /-- No backslash is directly before an opening bracket. -/
  unslashed : ¬['\\', '['] <:+: s

theorem Kept.shown_eq (h : Kept s) : shown s = s := by
  rw [shown, unescaped_eq_self_iff.2 h.unslashed, Emoji.replace_eq_self_iff.2 h.free]

theorem count_colon_shown_le (s : List Char) : (shown s).count ':' ≤ s.count ':' := by
  rw [shown, ← count_unescaped (s := s) (c := ':') (by decide)]
  exact Emoji.count_colon_replace_le _

/-- Strips shown one by one have no more colons than all of them together. -/
theorem count_colon_flatMap_le (l : List (List Char)) :
    (l.flatMap shown).count ':' ≤ l.flatten.count ':' := by
  induction l with
  | nil => simp
  | cons s l ih =>
    rw [List.flatten_cons, List.flatMap_cons, List.count_append, List.count_append]
    exact Nat.add_le_add (count_colon_shown_le s) ih

/-- Strips that keep all their colons have no pictures. -/
theorem free_of_count_colon {l : List (List Char)}
    (h : l.flatten.count ':' ≤ (l.flatMap shown).count ':') :
    ∀ s ∈ l, Emoji.Free (unescaped s) := by
  induction l with
  | nil => simp
  | cons s l ih =>
    have hs := count_colon_shown_le s
    have hl := count_colon_flatMap_le l
    rw [List.flatten_cons, List.flatMap_cons, List.count_append, List.count_append] at h
    refine List.forall_mem_cons.2 ⟨Emoji.free_of_count_colon ?_, ih (by omega)⟩
    rw [count_unescaped (by decide), ← shown]
    omega

/-- What is shown for strips is the text of them without some end exactly if there is no such end and
    they are all kept. -/
theorem flatMap_shown_eq_iff {l : List (List Char)} (h : l.flatten = s ++ t) (ht : ':' ∉ t) :
    l.flatMap shown = s ↔ t = [] ∧ ∀ strip ∈ l, Kept strip := by
  constructor
  · intro hshown
    have hfree : ∀ strip ∈ l, Emoji.Free (unescaped strip) :=
      free_of_count_colon (by rw [h, hshown, List.count_append, List.count_eq_zero.2 ht]; simp)
    have hbare : l.flatMap unescaped = s := by
      rw [← hshown]
      exact List.flatMap_congr fun strip hstrip =>
        (Emoji.replace_eq_self_iff.2 (hfree strip hstrip)).symm
    rcases flatMap_unescaped_cases l with hall | ⟨before, after, others, hl, heq⟩
    · have : l.flatten = s := by rw [← hbare, List.flatMap_congr hall, List.flatMap_id']
      refine ⟨?_, fun strip hstrip => ⟨hall strip hstrip ▸ hfree strip hstrip,
        unescaped_eq_self_iff.1 (hall strip hstrip)⟩⟩
      rwa [this, List.self_eq_append_right] at h
    · -- The texts differ at the backslash, whatever is behind it.
      rw [h, ← hbare, heq, List.append_assoc, List.append_cancel_left_eq, List.cons_append,
        List.cons.injEq] at hl
      exact absurd hl.1 (by decide)
  · rintro ⟨rfl, hkept⟩
    rw [List.append_nil] at h
    rw [← h, List.flatMap_congr fun strip hstrip => (hkept strip hstrip).shown_eq, List.flatMap_id']

/-- A text that is shown as it is when it is escaped. -/
def Steady (s : List Char) : Prop :=
  closing s = [] ∧ ∀ strip ∈ (cut s).strips, Kept strip

/-- What is shown for an escaped text is the text exactly if it is steady. -/
theorem flatMap_shown_closing_iff (s : List Char) :
    (cut (s ++ closing s)).strips.flatMap shown = s ↔ Steady s := by
  rw [flatMap_shown_eq_iff (text_cut (s ++ closing s)) (notMem_closing (by decide) s)]
  refine and_congr_right fun hclosing => ?_
  rw [hclosing, List.append_nil]

/-- A text without opening brackets has nothing to escape. -/
theorem steady_iff_of_notMem (hopen : '[' ∉ s) (hend : s.getLast? ≠ some '\\') :
    Steady s ↔ Emoji.Free s := by
  have hclosing : closing s = [] := by
    have hnone : s.reverse.takeWhile isBackslash = [] :=
      takeWhile_reverse_of_getLast? fun c hc => by
        rw [isBackslash, decide_eq_false_iff_not]
        rintro rfl
        exact hend hc
    rw [closing, hnone]
    rfl
  have hkept : Kept s ↔ Emoji.Free s :=
    ⟨fun h => h.free, fun h => ⟨h, fun hpart => hopen (hpart.subset (by simp))⟩⟩
  rw [Steady, hclosing, cut_of_notMem hopen, Cut.strips, List.flatMap_nil,
    List.forall_mem_singleton, hkept]
  exact and_iff_right rfl

end BundleManifest.Report.Markup
