import BundleManifest.Proofs.Report.Line
import BundleManifest.Report.Table
import Mathlib.Data.List.TakeWhile

/-!
# Tables that fit on the terminal

If the columns of a table fit beside each other then each of them has the width of its widest cell
(`columnWidths_of_fit`). A text of one line is not changed in such a cell: its words come together
again on one line, and nothing but spaces is added (`cellLines_eq_singleton`).

The words of a text keep the white space behind them, so that nothing is lost when they are put
together again (`flatten_words`). As long as they fit, all of them are put on the same line
(`fill_eq_singleton`), and the line is filled up with spaces to the width of the cell. Widths are
counted in cells of the console, whatever these are for a character; all that is used of them is that
a space takes one.

* `Legible`: the texts that are not changed, of one line and without white space at the end;
* `naturalWidth`, `Fit`: how much room the columns need, and that there is so much;
* `cellText`: the line of a cell.
-/

namespace BundleManifest.Report

variable {s t : List Char} {limit used : Nat}

/-! ## Words -/

theorem drop_length_takeWhile (p : Char → Bool) (s : List Char) :
    s.drop (s.takeWhile p).length = s.dropWhile p := by
  have hs : s.takeWhile p ++ s.dropWhile p = s := List.takeWhile_append_dropWhile
  rw [← List.append_cancel_left_eq (s.takeWhile p), hs]
  exact (congrArg (· ++ _) (List.prefix_iff_eq_take.1 (List.takeWhile_prefix p))).trans
    (List.take_append_drop _ s)

theorem eq_false_of_head?_dropWhile {p : Char → Bool} {c : Char}
    (h : (s.dropWhile p).head? = some c) :
    p c = false := by
  have := List.head?_dropWhile_not p s
  rwa [h] at this

/-- A text is white space, or has a first word behind which there is no white space. -/
theorem words_go_cases (n : Nat) (s : List Char) :
    (words.go (n + 1) s = [] ∧ ∀ c ∈ s, Text.isBlank c) ∨
      ∃ word rest, s = word ++ rest ∧ word ≠ [] ∧ words.go (n + 1) s = word :: words.go n rest ∧
        ∀ c, rest.head? = some c → Text.isBlank c = false := by
  rw [words.go]
  simp only [← List.drop_drop, drop_length_takeWhile]
  split
  · next hbody =>
    left
    refine ⟨rfl, Text.dropWhile_eq_nil_iff.1 ?_⟩
    cases hrest : s.dropWhile Text.isBlank with
    | nil => rfl
    | cons c rest =>
      have hc := eq_false_of_head?_dropWhile (congrArg List.head? hrest)
      simp [hrest, hc] at hbody
  · next hbody =>
    right
    refine ⟨_, _, ?_, ?_, rfl, fun c hc => eq_false_of_head?_dropWhile hc⟩
    · simp only [List.append_assoc, List.takeWhile_append_dropWhile]
    · rw [List.isEmpty_iff] at hbody
      simp [hbody]

/-- The words of a text that begins with a word are all of it. -/
theorem flatten_words_go (n : Nat) (s : List Char) (hn : s.length ≤ n)
    (hs : ∀ c, s.head? = some c → Text.isBlank c = false) : (words.go n s).flatten = s := by
  induction n generalizing s with
  | zero =>
    obtain rfl := List.eq_nil_of_length_eq_zero (Nat.le_zero.1 hn)
    rfl
  | succ n ih =>
    rcases words_go_cases n s with ⟨hnone, hblank⟩ | ⟨word, rest, rfl, hword, heq, hrest⟩
    · cases s with
      | nil => rw [hnone]; rfl
      | cons c s => exact absurd (hblank c List.mem_cons_self) (by simp [hs c rfl])
    · have := List.length_pos_iff.2 hword
      rw [List.length_append] at hn
      rw [heq, List.flatten_cons, ih rest (by omega) hrest]

/-- The words of a text are all of it, unless there are none. -/
theorem flatten_words (h : words s ≠ []) : (words s).flatten = s := by
  rw [words] at h ⊢
  cases hn : s.length with
  | zero => simp [hn, words.go] at h
  | succ n =>
    rw [hn] at h
    rcases words_go_cases n s with ⟨hnone, -⟩ | ⟨word, rest, rfl, hword, heq, hrest⟩
    · exact absurd hnone h
    · have := List.length_pos_iff.2 hword
      rw [List.length_append] at hn
      rw [heq, List.flatten_cons, flatten_words_go n rest (by omega) hrest]

/-! ## Numbers and lists -/

/-- The greatest of some numbers is at least as great as each of them. -/
theorem le_foldl_max (ns : List Nat) (n : Nat) :
    n ≤ ns.foldl max n ∧ ∀ m ∈ ns, m ≤ ns.foldl max n := by
  induction ns generalizing n with
  | nil => simp
  | cons m ns ih =>
    obtain ⟨hfirst, hrest⟩ := ih (max n m)
    exact ⟨by rw [List.foldl_cons]; omega,
      List.forall_mem_cons.2 ⟨by rw [List.foldl_cons]; omega, hrest⟩⟩

/-- A number is at most the total of all. -/
theorem le_total {ns : List Nat} {n : Nat} (h : n ∈ ns) : n ≤ Number.total ns := by
  induction ns with
  | nil => simp at h
  | cons m ns ih =>
    rw [Number.total_cons]
    rcases List.mem_cons.1 h with rfl | h
    · omega
    · have := ih h
      omega

/-- No column is made narrower when all fit. -/
theorem collapse_of_le {ws : List Nat} (h : Number.total ws ≤ limit) (fuel : Nat) :
    collapse limit fuel ws = ws := by
  cases fuel with
  | zero => rfl
  | succ fuel => rw [collapse, if_pos h]

theorem exists_intercalate_cons (sep first : List Char) (rest : List (List Char)) :
    ∃ more, List.intercalate sep (first :: rest) = first ++ more := by
  cases rest with
  | nil => exact ⟨[], by simp⟩
  | cons second rest =>
    exact ⟨sep ++ List.intercalate sep (second :: rest), by
      rw [List.intercalate_cons_cons, List.append_assoc]⟩

/-! ## Lines -/

theorem stripEnd_of_getLast? (h : ∀ c, s.getLast? = some c → Text.isBlank c = false) :
    stripEnd limit s = s := by
  simp [stripEnd, Markup.takeWhile_reverse_of_getLast? h]

variable [Console]

/-- A line does not become wider when characters at its end are dropped. -/
theorem width_stripRight_le (drop : Char → Bool) (s : List Char) :
    width (Text.stripRight drop s) ≤ width s := by
  have hfront : Text.stripRight drop s <+: s := by
    rw [Text.stripRight, ← List.reverse_suffix, List.reverse_reverse]
    exact List.dropWhile_suffix drop
  obtain ⟨blanks, hs⟩ := hfront
  have hwidth := congrArg width hs
  rw [width_append] at hwidth
  omega

/-- Words that fit stay on one line. -/
theorem fill_eq_singleton {ws : List (List Char)} (acc : List (List Char))
    (h : used + width ws.flatten ≤ limit) :
    fill limit used acc ws = [acc.reverse.flatten ++ ws.flatten] := by
  induction ws generalizing used acc with
  | nil => simp [fill]
  | cons word ws ih =>
    rw [List.flatten_cons, width_append] at h
    have hword := width_stripRight_le Text.isBlank word
    rw [fill, if_pos (by omega), ih _ (by omega)]
    simp

theorem fit_of_width_le (h : width s ≤ limit) :
    fit limit s = s ++ List.replicate (limit - width s) ' ' :=
  if_pos h

/-- A line that fits, and does not end in white space, is filled up with spaces. -/
theorem wrapLine_eq_singleton (hend : ∀ c, s.getLast? = some c → Text.isBlank c = false)
    (hwidth : width s ≤ limit) : wrapLine limit s = [s ++ List.replicate (limit - width s) ' '] := by
  have hfit : fit limit (stripEnd limit s) = s ++ List.replicate (limit - width s) ' ' := by
    rw [stripEnd_of_getLast? hend, fit_of_width_le hwidth]
  rw [wrapLine]
  split
  · rw [hfit]
  · next ws hws =>
    have hflatten := flatten_words hws
    rw [fill_eq_singleton [] (by rw [hflatten]; omega), hflatten]
    exact congrArg (fun line => [line]) hfit

/-! ## Cells -/

/-- A text that stands in a cell as it is, if there is room for it. -/
structure Legible (s : List Char) : Prop where
  /-- No name in it is that of a picture. -/
  free : Emoji.Free s
  /-- It is on one line. -/
  plain : ∀ c ∈ s, ¬IsControlCharacter c ∧ endsLine c = false
  /-- It does not end in white space. -/
  ending : ∀ c, s.getLast? = some c → Text.isBlank c = false

/-- A text of one line is as wide as its widest line. -/
theorem widest_eq (h : ∀ c ∈ s, endsLine c = false) (used : Nat) :
    widest used s = used + width s := by
  induction s generalizing used with
  | nil => rfl
  | cons c s ih =>
    obtain ⟨hc, hs⟩ := List.forall_mem_cons.1 h
    rw [widest, if_neg (by simp [hc]), ih hs, width_cons, Nat.add_assoc]

/-- The line of a cell for a text of one line. -/
def cellText (w : Nat) (s : List Char) : List Char :=
  ' ' :: (s ++ List.replicate (w - padding - width s) ' ') ++ [' ']

/-- A legible text stands on a single line of its cell, if there is room for it. -/
theorem cellLines_eq_singleton (h : Legible s) {w : Nat} (hw : widest 0 s + padding ≤ w) :
    cellLines w s = [cellText w s] := by
  rw [widest_eq fun c hc => (h.plain c hc).2] at hw
  rw [cellLines, wrap, lines_of_forall fun c hc => (h.plain c hc).1, List.flatMap_singleton,
    wrapLine_eq_singleton h.ending (by omega)]
  rfl

/-! ## Columns -/

/-- The width of a column that has all the room it needs. -/
def naturalWidth (cells : List (List Char)) : Nat :=
  (cells.map fun s => widest 0 s + padding).foldl max 0

/-- Columns that fit on the terminal beside each other. -/
def Fit (columns : List (List (List Char))) : Prop :=
  Number.total (columns.map naturalWidth) ≤ Console.width - (columns.length + 1)

theorem le_naturalWidth {cells : List (List Char)} (h : s ∈ cells) :
    widest 0 s + padding ≤ naturalWidth cells :=
  (le_foldl_max _ 0).2 _ (List.mem_map.2 ⟨s, h, rfl⟩)

/-- A column gets the room it needs, if there is so much. -/
theorem columnWidth_eq {cells : List (List Char)} (h : naturalWidth cells ≤ limit) :
    columnWidth limit cells = naturalWidth cells := by
  rw [columnWidth, naturalWidth]
  congr 1
  exact List.map_congr_left fun s hs => Nat.min_eq_left ((le_naturalWidth hs).trans h)

/-- Columns that fit have their natural widths. -/
theorem columnWidths_of_fit {columns : List (List (List Char))} (h : Fit columns) :
    columnWidths columns = columns.map naturalWidth := by
  have hwidths : columns.map (columnWidth (Console.width - (columns.length + 1))) =
      columns.map naturalWidth :=
    List.map_congr_left fun cells hcells =>
      columnWidth_eq ((le_total (List.mem_map_of_mem hcells)).trans h)
  rw [columnWidths, hwidths]
  exact collapse_of_le h _

/-! ## Rows -/

/-- The first two cells of a row are beside each other, at its left end. -/
theorem exists_mem_rowLines (mark : Char) {w x : Nat} (ws : List Nat) {t : List Char}
    (cells : List (List Char))
    (hs : cellLines w s = [cellText w s]) (ht : cellLines x t = [cellText x t]) :
    ∃ more, mark :: cellText w s ++ mark :: cellText x t ++ more ∈
      rowLines mark false (w :: x :: ws) (s :: t :: cells) := by
  simp only [rowLines, List.zipWith_cons_cons, List.zip_cons_cons, List.map_cons, hs, ht,
    Bool.false_eq_true, if_false]
  generalize hheight : List.foldl max 1 _ = height
  generalize (ws.zip _).map _ = others
  have hpos : 0 < height := by
    rw [← hheight]
    exact (le_foldl_max _ 1).1
  obtain ⟨more, hmore⟩ :=
    exists_intercalate_cons [mark] (cellText x t) (others.map fun ls => ls.getD 0 [])
  refine ⟨more ++ [mark], List.mem_map.2 ⟨0, List.mem_range.2 hpos, ?_⟩⟩
  show mark ::
    List.intercalate [mark] (cellText w s :: cellText x t :: others.map fun ls => ls.getD 0 []) ++
    [mark] = _
  rw [List.intercalate_cons_cons, hmore]
  simp

end BundleManifest.Report
