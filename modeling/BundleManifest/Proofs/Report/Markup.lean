import BundleManifest.Proofs.Report.Emoji
import BundleManifest.Report.Markup
import Mathlib.Data.List.Induction
import Mathlib.Data.List.TakeWhile

/-!
# Texts cut at their tags

A text with markup is cut at its tags into runs without tags (`cut`), and everything about markup is
read off this cut: the pieces of the text, and the text with its tags escaped (`cut_escapeTags`), in
which every tag has an odd number of backslashes.

The cut is computed from the left, and so is everything that is read off it. The induction that goes
with it (`induction_tags`) has three cases: the end of the text, a tag with the backslashes before it,
and a character with which no tag begins. What is proved of a text in this way is then said of the
strips of its cut, one by one.

* `tag?_eq_some_iff`, `escapedTag?_eq_some_iff`: when a text begins with a tag;
* `text_cut`: nothing is lost in the cut;
* `piecesFrom_eq`: the pieces of a text from its cut;
* `textOf_textPieces`: what is shown when none of the pieces is a tag.
-/

namespace BundleManifest.Report.Markup

variable {s t tag rest : List Char} {c : Char} {n : Nat}

/-! ## Tags -/

/-- Whether a text can stand between the brackets of a tag. -/
def IsTag (tag : List Char) : Prop :=
  (∃ c body, tag = c :: body ∧ beginsTag c) ∧ '[' ∉ tag ∧ ']' ∉ tag

/-- A tag in its brackets, behind some backslashes. -/
def tagText (n : Nat) (tag : List Char) : List Char :=
  List.replicate n '\\' ++ '[' :: (tag ++ [']'])

/-- The tag at the beginning of a text is what stands in brackets there, if it can be a tag. -/
theorem tag?_eq_some_iff :
    tag? s = some tag ↔ IsTag tag ∧ ∃ rest, s = '[' :: (tag ++ ']' :: rest) := by
  constructor
  · intro h
    unfold tag? at h
    split at h
    · next c rest =>
      rw [Option.ite_none_right_eq_some, Option.some.injEq, Bool.and_eq_true, decide_eq_true_iff] at h
      obtain ⟨⟨hc, hclosed⟩, rfl⟩ := h
      have hlength := (List.getElem?_eq_some_iff.1 (List.head?_drop ▸ hclosed)).1
      obtain ⟨d, -, hrest⟩ := Emoji.eq_takeWhile_append hlength
      have hin :=
        fun x (hx : x ∈ rest.takeWhile fun c => c ≠ ']' && c ≠ '[') => List.mem_takeWhile_imp hx
      generalize rest.takeWhile _ = body at *
      generalize rest.drop (body.length + 1) = behind at hrest
      subst hrest
      obtain rfl : d = ']' := by simpa using hclosed
      refine ⟨⟨⟨c, body, rfl, hc⟩, fun h => ?_, fun h => ?_⟩, behind, rfl⟩
      · rcases List.mem_cons.1 h with rfl | h
        · exact absurd hc (by decide)
        · exact absurd (hin _ h) (by decide)
      · rcases List.mem_cons.1 h with rfl | h
        · exact absurd hc (by decide)
        · exact absurd (hin _ h) (by decide)
    · simp at h
  · rintro ⟨⟨⟨c, body, rfl, hc⟩, hopen, hclose⟩, rest, rfl⟩
    rw [List.mem_cons, not_or] at hopen hclose
    have htake : (body ++ ']' :: rest).takeWhile (fun c => c ≠ ']' && c ≠ '[') = body := by
      rw [List.takeWhile_append_of_pos]
      · simp
      · intro d hd
        simp [ne_of_mem_of_not_mem hd hopen.2, ne_of_mem_of_not_mem hd hclose.2]
    simp only [tag?, List.cons_append, htake, hc, List.drop_left, List.head?_cons]
    rfl

/-- The tag behind the backslashes at the beginning of a text, and how many they are. -/
theorem escapedTag?_eq_some_iff :
    escapedTag? s = some (n, tag) ↔ IsTag tag ∧ ∃ rest, s = tagText n tag ++ rest := by
  simp only [escapedTag?, Option.map_eq_some_iff, Prod.mk.injEq, tag?_eq_some_iff]
  constructor
  · rintro ⟨tag, ⟨htag, rest, hs⟩, rfl, rfl⟩
    have hslashes : s.takeWhile isBackslash = List.replicate (s.takeWhile isBackslash).length '\\' :=
      List.eq_replicate_of_mem fun d hd => by simpa [isBackslash] using List.mem_takeWhile_imp hd
    refine ⟨htag, rest, ?_⟩
    rw [tagText, ← hslashes, List.append_assoc, List.cons_append, List.append_assoc,
      List.singleton_append,
      ← hs, List.prefix_iff_eq_take.1 (List.takeWhile_prefix isBackslash (l := s)), List.length_take,
      Nat.min_eq_left (List.takeWhile_prefix _).length_le, List.take_append_drop]
  · rintro ⟨htag, rest, rfl⟩
    have htake : (tagText n tag ++ rest).takeWhile isBackslash = List.replicate n '\\' := by
      rw [tagText, List.append_assoc, List.takeWhile_append_of_pos]
      · simp [isBackslash]
      · intro d hd
        simpa [isBackslash] using (List.mem_replicate.1 hd).2
    refine ⟨tag, ⟨htag, rest, ?_⟩, ?_, rfl⟩
    · rw [htake, List.length_replicate, tagText, List.append_assoc,
        List.drop_left' List.length_replicate]
      simp
    · rw [htake, List.length_replicate]

theorem getLast?_tagText : (tagText n tag).getLast? = some ']' := by
  rw [tagText, ← List.cons_append, ← List.append_assoc, List.getLast?_concat]

@[simp]
theorem escapedTag?_nil : escapedTag? [] = none := rfl

theorem escapedTag?_tagText (h : IsTag tag) : escapedTag? (tagText n tag ++ rest) = some (n, tag) :=
  escapedTag?_eq_some_iff.2 ⟨h, rest, rfl⟩

/-- A backslash does not make a tag, and keeps none from being one. -/
theorem escapedTag?_backslash : escapedTag? ('\\' :: s) = none ↔ escapedTag? s = none := by
  simp [escapedTag?, isBackslash]

/-- An opening bracket begins no tag if what can be a tag is followed by no bracket. -/
theorem escapedTag?_bracket :
    escapedTag? ('[' :: s) = none ↔ ∀ tag rest, IsTag tag → s ≠ tag ++ ']' :: rest := by
  rw [escapedTag?, List.takeWhile_cons_of_neg (by simp [isBackslash]), List.length_nil,
    List.drop_zero, Option.map_eq_none_iff]
  constructor
  · rintro h tag rest htag rfl
    have : tag? ('[' :: (tag ++ ']' :: rest)) = some tag := tag?_eq_some_iff.2 ⟨htag, rest, rfl⟩
    exact absurd (h ▸ this) (by simp)
  · intro h
    by_contra hsome
    obtain ⟨tag, hfound⟩ := Option.ne_none_iff_exists'.1 hsome
    obtain ⟨htag, rest, heq⟩ := tag?_eq_some_iff.1 hfound
    exact h tag rest htag (List.cons.inj heq).2

/-- A tag begins with a bracket or with the backslashes before it. -/
theorem escapedTag?_of_ne (hslash : c ≠ '\\') (hopen : c ≠ '[') : escapedTag? (c :: s) = none := by
  rw [escapedTag?, List.takeWhile_cons_of_neg (by simpa [isBackslash] using hslash), List.length_nil,
    List.drop_zero, Option.map_eq_none_iff, tag?]
  · rintro d rest heq
    exact hopen (List.cons.inj heq).1

theorem drop_tagText : (tagText n tag ++ rest).drop (n + tag.length + 2) = rest :=
  List.drop_left' (by simp [tagText, Nat.add_assoc])

/-- Induction over a text, by way of its tags. -/
theorem induction_tags {P : List Char → Prop} (nil : P [])
    (tag : ∀ n tag rest, IsTag tag → P rest → P (tagText n tag ++ rest))
    (cons : ∀ c rest, escapedTag? (c :: rest) = none → P rest → P (c :: rest)) (s : List Char) :
    P s := by
  fun_induction escapeTags s with
  | case1 s n t found ih =>
    obtain ⟨htag, rest, rfl⟩ := escapedTag?_eq_some_iff.1 found
    rw [drop_tagText] at ih
    exact tag n t rest htag ih
  | case2 => exact nil
  | case3 c rest found ih => exact cons c rest found ih

/-! ## The cut -/

/-- A tag of a text, and the run of text behind it. -/
structure Tagged where
  /-- The number of backslashes before the tag. -/
  slashes : Nat
  /-- The tag, without its brackets. -/
  tag : List Char
  /-- The text behind the tag, up to the backslashes before the next one. -/
  behind : List Char

/-- A text that is cut at its tags. -/
structure Cut where
  /-- The text before the first tag. -/
  run : List Char
  /-- The tags, and what is behind each. -/
  tagged : List Tagged

/-- The strips of text that a tag and the run behind it are. -/
def Tagged.strips (t : Tagged) : List (List Char) :=
  [List.replicate t.slashes '\\', '[' :: (t.tag ++ [']']), t.behind]

/-- The strips of text into which a text is cut. -/
def Cut.strips (c : Cut) : List (List Char) :=
  c.run :: c.tagged.flatMap Tagged.strips

/-- The text that was cut. -/
def Cut.text (c : Cut) : List Char :=
  c.strips.flatten

theorem Cut.text_tagged (n : Nat) (tag : List Char) (c : Cut) :
    (Cut.mk [] (⟨n, tag, c.run⟩ :: c.tagged)).text = tagText n tag ++ c.text := by
  simp [text, strips, Tagged.strips, tagText]

theorem Cut.text_cons (d : Char) (c : Cut) : (Cut.mk (d :: c.run) c.tagged).text = d :: c.text := by
  simp [text, strips]

/-- Cuts a text at its tags. -/
def cut (s : List Char) : Cut :=
  match _found : escapedTag? s with
  | some (n, tag) =>
    let behind := cut (s.drop (n + tag.length + 2))
    ⟨[], ⟨n, tag, behind.run⟩ :: behind.tagged⟩
  | none =>
    match s with
    | [] => ⟨[], []⟩
    | c :: rest =>
      let behind := cut rest
      ⟨c :: behind.run, behind.tagged⟩
  termination_by s.length
  decreasing_by
    · have := length_of_escapedTag? _found
      rw [List.length_drop]
      omega
    · simp

@[simp]
theorem cut_nil : cut [] = ⟨[], []⟩ := by
  rw [cut]
  rfl

/-- A text that begins with a tag is cut there and behind it. -/
theorem cut_of_escapedTag? (h : escapedTag? s = some (n, tag)) :
    cut s = ⟨[], ⟨n, tag, (cut (s.drop (n + tag.length + 2))).run⟩
      :: (cut (s.drop (n + tag.length + 2))).tagged⟩ := by
  rw [cut]
  split
  · next found =>
    rw [h, Option.some.injEq, Prod.mk.injEq] at found
    obtain ⟨rfl, rfl⟩ := found
    rfl
  · next found => simp [h] at found

theorem cut_tagText (h : IsTag tag) :
    cut (tagText n tag ++ rest) = ⟨[], ⟨n, tag, (cut rest).run⟩ :: (cut rest).tagged⟩ := by
  rw [cut_of_escapedTag? (escapedTag?_tagText h), drop_tagText]

theorem cut_cons (h : escapedTag? (c :: rest) = none) :
    cut (c :: rest) = ⟨c :: (cut rest).run, (cut rest).tagged⟩ := by
  rw [cut]
  split
  · next found => simp [h] at found
  · rfl

theorem cut_of_notMem (h : '[' ∉ s) : cut s = ⟨s, []⟩ := by
  induction s using induction_tags with
  | nil => simp
  | tag n tag rest htag ih => exact absurd (by simp [tagText]) h
  | cons c rest hnone ih => rw [cut_cons hnone, ih fun hc => h (List.mem_cons_of_mem c hc)]

/-- Nothing is lost when a text is cut. -/
theorem text_cut (s : List Char) : (cut s).text = s := by
  induction s using induction_tags with
  | nil => simp [Cut.text, Cut.strips]
  | tag n tag rest htag ih => rw [cut_tagText htag, Cut.text_tagged, ih]
  | cons c rest hnone ih => rw [cut_cons hnone, Cut.text_cons, ih]

/-- A text is only cut at what can be a tag. -/
theorem isTag_of_mem_cut : ∀ t ∈ (cut s).tagged, IsTag t.tag := by
  induction s using induction_tags with
  | nil => simp
  | tag n tag rest htag ih =>
    rw [cut_tagText htag]
    exact List.forall_mem_cons.2 ⟨htag, ih⟩
  | cons c rest hnone ih =>
    rw [cut_cons hnone]
    exact ih

/-- The pieces that a tag and the run behind it make. -/
def Tagged.pieces (t : Tagged) : List Piece :=
  textPiece (List.replicate (t.slashes / 2) '\\')
    ++ (if t.slashes % 2 = 1 then .text ('[' :: t.tag ++ [']']) else .tag t.tag) :: textPiece t.behind

/-- The pieces of a text are its first run, behind the open piece of text, and the pieces at each
    cut. -/
theorem piecesFrom_eq (acc s : List Char) :
    piecesFrom acc s = textPiece (acc.reverse ++ (cut s).run) ++
      (cut s).tagged.flatMap Tagged.pieces := by
  fun_induction piecesFrom acc s with
  | case1 acc s n tag found ih =>
    rw [cut_of_escapedTag? found, ih]
    simp [Tagged.pieces]
  | case2 acc => simp
  | case3 acc c rest found ih =>
    rw [cut_cons found, ih]
    simp

/-- The pieces of a text are those of its cut. -/
theorem pieces_eq (s : List Char) :
    pieces s = textPiece (cut s).run ++ (cut s).tagged.flatMap Tagged.pieces :=
  piecesFrom_eq [] s

theorem pieces_tag (h : IsTag tag) (s : List Char) :
    pieces (tagText 0 tag ++ s) = .tag tag :: pieces s := by
  rw [pieces_eq, pieces_eq, cut_tagText h]
  simp [Tagged.pieces, textPiece]

/-- A tag that begins something, or ends it, ends the piece of text before it. -/
theorem pieces_char_tag (h : IsTag tag) (hnone : escapedTag? (c :: (tagText 0 tag ++ s)) = none) :
    pieces (c :: (tagText 0 tag ++ s)) = .text [c] :: .tag tag :: pieces s := by
  rw [pieces_eq, pieces_eq, cut_cons hnone, cut_tagText h]
  simp [Tagged.pieces, textPiece]

/-! ## Backslashes before brackets -/

/-- The first backslash that is left out, if there is one, makes the text differ there. -/
theorem unescaped_cases (s : List Char) :
    unescaped s = s ∨
      ∃ before after others, s = before ++ '\\' :: after ∧ unescaped s = before ++ '[' :: others := by
  fun_induction unescaped s with
  | case1 rest ih => exact .inr ⟨[], '[' :: rest, unescaped rest, rfl, rfl⟩
  | case2 c rest hne ih =>
    rcases ih with heq | ⟨before, after, others, hrest, heq⟩
    · exact .inl (congrArg (c :: ·) heq)
    · exact .inr ⟨c :: before, after, others, congrArg (c :: ·) hrest, congrArg (c :: ·) heq⟩
  | case3 => exact .inl rfl

/-- A text stays if it has no backslash directly before an opening bracket. -/
theorem unescaped_eq_self_iff : unescaped s = s ↔ ¬['\\', '['] <:+: s := by
  fun_induction unescaped s with
  | case1 rest ih =>
    have : ['\\', '['] <:+: '\\' :: '[' :: rest := ⟨[], rest, rfl⟩
    simp [this]
  | case2 c rest hne ih =>
    rw [List.infix_cons_iff, not_or, ← ih, List.cons.injEq]
    refine ⟨fun h => ⟨fun hfront => ?_, h.2⟩, fun h => ⟨rfl, h.2⟩⟩
    obtain ⟨behind, heq⟩ := hfront
    obtain ⟨rfl, hrest⟩ := List.cons.inj heq
    exact hne behind rfl hrest.symm
  | case3 => simp

/-- Backslashes before opening brackets are all that is left out. -/
theorem count_unescaped (h : c ≠ '\\') : (unescaped s).count c = s.count c := by
  fun_induction unescaped s with
  | case1 rest ih => simp [List.count_cons, ih, h.symm]
  | case2 d rest hne ih => simp [List.count_cons, ih]
  | case3 => rfl

theorem unescaped_of_notMem (h : '[' ∉ s) : unescaped s = s :=
  unescaped_eq_self_iff.2 fun hpart => h (hpart.subset (by simp))

theorem unescaped_cons_of_ne (h : c ≠ '\\') : unescaped (c :: s) = c :: unescaped s := by
  rw [unescaped]
  intro rest hc
  exact absurd hc h

/-! ## The text that is left -/

variable [Console]

/-- What is shown for a text without tags. -/
def shown (s : List Char) : List Char :=
  Emoji.replace (unescaped s)

@[simp]
theorem shown_nil : shown [] = [] := by
  simp [shown, unescaped, Emoji.replace]

theorem shown_cons (hcolon : c ≠ ':') (hslash : c ≠ '\\') (s : List Char) :
    shown (c :: s) = c :: shown s := by
  rw [shown, unescaped_cons_of_ne hslash]
  exact Emoji.replace_append (s := [c]) (by simpa using hcolon.symm) (unescaped s)

/-- A tag shows nothing itself, but changes what is open. -/
theorem textOf_tag {opened others : List OpenTag} (h : afterTag opened tag = .ok others)
    (l : List Piece) :
    textOf opened (.tag tag :: l) = textOf others l := by
  rw [textOf, h]
  rfl

/-- A piece of text is shown before the pieces behind it, whatever is open. -/
theorem textOf_textPiece (opened : List OpenTag) (s : List Char) (l : List Piece) :
    textOf opened (textPiece s ++ l) = (textOf opened l).map (shown s ++ ·) := by
  cases s with
  | nil =>
    rw [textPiece, List.isEmpty_nil, if_pos rfl, List.nil_append]
    cases textOf opened l with
    | error p => rfl
    | ok s => simp [Except.map]
  | cons c s => rfl

/-- Pieces of text are shown one by one if nothing else is among them. -/
theorem textOf_textPieces (opened : List OpenTag) (l : List (List Char)) :
    textOf opened (l.flatMap textPiece) = .ok (l.flatMap shown) := by
  induction l with
  | nil => rfl
  | cons s l ih =>
    rw [List.flatMap_cons, textOf_textPiece, ih]
    rfl

end BundleManifest.Report.Markup
