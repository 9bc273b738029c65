import BundleManifest.Proofs.Report.Markup

/-!
# Texts without markup

A text in which nothing is a tag, and no backslash is directly before an opening bracket, is shown
with markup as it is shown without (`render_of_unmarked`). Any other text is not: markup takes
brackets or backslashes from it (`weight_lt_of_render`), and nothing else in a text ever does.

Markup can only take away. To each text a weight is given, the number of its opening brackets and
backslashes, and each step from the text to what is shown of it makes the weight smaller or leaves it
alone: a tag loses its bracket, a backslash before a bracket is dropped, and the pictures that take
the place of their names have neither. So a text with markup and what is shown of it differ in weight.

* `Unmarked`: no part of the text is a tag, and none is a backslash before an opening bracket;
* `render_of_unmarked`: these texts are shown as they are without markup;
* `weight_lt_of_render`: all others are lighter when they are shown.
-/

namespace BundleManifest.Report.Markup

variable {s t : List Char}

/-- A text without markup. -/
structure Unmarked (s : List Char) : Prop where
  /-- No part of it is a tag. -/
  untagged : ∀ tag, IsTag tag → ¬tagText 0 tag <:+: s
  /-- No backslash is directly before an opening bracket. -/
  unslashed : ¬['\\', '['] <:+: s

theorem unmarked_of_notMem (h : '[' ∉ s) : Unmarked s where
  untagged tag _ hpart := h (hpart.subset (by simp [tagText]))
  unslashed hpart := h (hpart.subset (by simp))

/-- A text is not cut exactly if no part of it is a tag. -/
theorem tagged_cut_eq_nil_iff : (cut s).tagged = [] ↔ ∀ tag, IsTag tag → ¬tagText 0 tag <:+: s := by
  constructor
  · intro h
    induction s using induction_tags with
    | nil => simp [tagText]
    | tag n tag rest htag ih => simp [cut_tagText htag] at h
    | cons c rest hnone ih =>
      rw [cut_cons hnone] at h
      intro tag htag hpart
      rcases List.infix_cons_iff.1 hpart with ⟨behind, heq⟩ | hpart
      · rw [← heq, escapedTag?_tagText htag] at hnone
        simp at hnone
      · exact ih h tag htag hpart
  · intro h
    by_contra htagged
    obtain ⟨t, l, ht⟩ := List.exists_cons_of_ne_nil htagged
    refine h t.tag (isTag_of_mem_cut t (ht ▸ List.mem_cons_self)) ?_
    rw [← text_cut s]
    refine ⟨(cut s).run ++ List.replicate t.slashes '\\',
      t.behind ++ (l.flatMap Tagged.strips).flatten, ?_⟩
    simp [Cut.text, Cut.strips, ht, Tagged.strips, tagText]

/-! ## Brackets and backslashes -/

/-- The number of opening brackets and backslashes in a text. -/
def weight (s : List Char) : Nat :=
  s.count '[' + s.count '\\'

@[simp]
theorem weight_append (s t : List Char) : weight (s ++ t) = weight s + weight t := by
  simp only [weight, List.count_append]
  omega

/-- Pictures and their names have neither brackets nor backslashes. -/
theorem weight_replace [Console] (s : List Char) : weight (Emoji.replace s) = weight s := by
  rw [weight, Emoji.count_replace rfl (by decide), Emoji.count_replace rfl (by decide), weight]

/-- Dropping backslashes makes no text heavier. -/
theorem weight_unescaped_le (s : List Char) : weight (unescaped s) ≤ weight s := by
  fun_induction unescaped s with
  | case1 rest ih =>
    simp only [weight, List.count_cons] at ih ⊢
    simp
    omega
  | case2 c rest hne ih =>
    simp only [weight, List.count_cons] at ih ⊢
    omega
  | case3 => exact Nat.le_refl _

/-- A backslash before an opening bracket is dropped, which makes the text lighter. -/
theorem weight_unescaped_lt (h : ['\\', '['] <:+: s) : weight (unescaped s) < weight s := by
  have hne : unescaped s ≠ s := fun heq => unescaped_eq_self_iff.1 heq h
  clear h
  fun_induction unescaped s with
  | case1 rest ih =>
    have := weight_unescaped_le rest
    simp only [weight, List.count_cons] at this ⊢
    simp
    omega
  | case2 c rest hrest ih =>
    have := ih fun heq => hne (congrArg (c :: ·) heq)
    simp only [weight, List.count_cons] at this ⊢
    omega
  | case3 => exact absurd rfl hne

/-- What is left of a piece, names of pictures and all. -/
def Piece.left : Piece → List Char
  | .text s => unescaped s
  | .tag _ => []

/-- The text of some pieces is as heavy as what is left of them. -/
theorem weight_textOf [Console] {opened : List OpenTag} {l : List Piece}
    (h : textOf opened l = .ok t) :
    weight t = weight (l.flatMap Piece.left) := by
  induction l generalizing opened t with
  | nil =>
    obtain rfl := Except.ok.inj h
    rfl
  | cons p l ih =>
    cases p with
    | text s =>
      cases hl : textOf opened l with
      | error p => simp [textOf, hl, Except.map] at h
      | ok rest =>
        obtain rfl : Emoji.replace (unescaped s) ++ rest = t := by
          simpa [textOf, hl, Except.map] using h
        rw [List.flatMap_cons, weight_append, weight_append, weight_replace, ih hl, Piece.left]
    | tag tag =>
      cases htag : afterTag opened tag with
      | error p => simp [textOf, htag, bind, Except.bind] at h
      | ok others =>
        rw [textOf_tag htag] at h
        rw [ih h, List.flatMap_cons, Piece.left, List.nil_append]

theorem flatMap_left_textPiece (s : List Char) : (textPiece s).flatMap Piece.left = unescaped s := by
  cases s with
  | nil => simp [textPiece, unescaped]
  | cons c s => simp [textPiece, Piece.left]

/-- A tag loses its brackets, or a backslash before them. -/
theorem Tagged.weight_pieces_lt (t : Tagged) :
    weight (t.pieces.flatMap Piece.left) < weight t.strips.flatten := by
  have hslashes (n : Nat) : weight (List.replicate n '\\') = n := by
    simp [weight, List.count_replicate]
  have hhalf : unescaped (List.replicate (t.slashes / 2) '\\') =
      List.replicate (t.slashes / 2) '\\' :=
    unescaped_of_notMem (by simp)
  have hbehind := weight_unescaped_le t.behind
  have hbrackets := weight_unescaped_le ('[' :: (t.tag ++ [']']))
  have hopen : 1 ≤ weight ('[' :: (t.tag ++ [']'])) := by simp [weight]; omega
  rw [pieces, strips]
  split
  · -- The backslash before the tag is lost.
    simp only [List.flatMap_append, List.flatMap_cons, flatMap_left_textPiece, weight_append,
      List.flatten_cons, List.flatten_nil, List.append_nil, Piece.left, hhalf, hslashes]
    rw [List.cons_append]
    omega
  · simp only [List.flatMap_append, List.flatMap_cons, flatMap_left_textPiece, weight_append,
      List.flatten_cons,
      List.flatten_nil, List.append_nil, List.nil_append, Piece.left, hhalf, hslashes]
    omega

/-- No tag becomes heavier when it is taken for what it says. -/
theorem weight_flatMap_pieces_le (l : List Tagged) :
    weight ((l.flatMap Tagged.pieces).flatMap Piece.left) ≤
      weight (l.flatMap Tagged.strips).flatten := by
  induction l with
  | nil => simp
  | cons t l ih =>
    have := t.weight_pieces_lt
    simp only [List.flatMap_cons, List.flatMap_append, List.flatten_append, weight_append] at *
    omega

/-! ## The text that is left -/

theorem run_cut (h : (cut s).tagged = []) : (cut s).run = s := by
  have htext := text_cut s
  rw [Cut.text, Cut.strips, h] at htext
  simpa using htext

variable [Console]

/-- A text without markup is shown as without the reading of markup. -/
theorem render_of_unmarked (h : Unmarked s) : render s = .ok (Emoji.replace s) := by
  rw [render]
  split
  · have htagged := tagged_cut_eq_nil_iff.2 h.untagged
    have hshown := textOf_textPieces [] [s]
    rw [List.flatMap_singleton, List.flatMap_singleton, shown, unescaped_eq_self_iff.2 h.unslashed]
      at hshown
    rw [pieces_eq, htagged, run_cut htagged, List.flatMap_nil, List.append_nil, hshown]
  · rfl

/-- Any other text loses brackets or backslashes. -/
theorem weight_lt_of_render (h : ¬Unmarked s) (hrender : render s = .ok t) : weight t < weight s := by
  have hopen : s.contains '[' = true := by
    by_contra hnone
    exact h (unmarked_of_notMem (by simpa using hnone))
  rw [render, if_pos hopen] at hrender
  have hrun := weight_unescaped_le (cut s).run
  have htags := weight_flatMap_pieces_le (cut s).tagged
  have htext : weight (cut s).run + weight ((cut s).tagged.flatMap Tagged.strips).flatten =
      weight s := by
    rw [← weight_append]
    exact congrArg weight (text_cut s)
  rw [weight_textOf hrender, pieces_eq, List.flatMap_append, flatMap_left_textPiece, weight_append]
  by_cases htagged : (cut s).tagged = []
  · have hslash : ['\\', '['] <:+: s := by
      by_contra hunslashed
      exact h ⟨tagged_cut_eq_nil_iff.1 htagged, hunslashed⟩
    have := weight_unescaped_lt hslash
    rw [run_cut htagged] at hrun htext ⊢
    omega
  · obtain ⟨t, l, ht⟩ := List.exists_cons_of_ne_nil htagged
    have hfirst := t.weight_pieces_lt
    have hothers := weight_flatMap_pieces_le l
    rw [ht] at htext ⊢
    simp only [List.flatMap_cons, List.flatMap_append, List.flatten_append, weight_append] at *
    omega

end BundleManifest.Report.Markup
