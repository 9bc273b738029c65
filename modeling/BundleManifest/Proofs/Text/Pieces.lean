import BundleManifest.Text.Pieces

/-!
# What the pieces of a text hold

The pieces of a text hold the characters of the text, apart from the mark at which it is cut.

Cutting is the same as the splitting of lists in the library, so that what is known of it there can be
used; the pieces put together again, with the mark between them, are the text.
-/

namespace BundleManifest.Text

variable {c mark : Char} {s : List Char}

theorem pieces_append_cons (mark : Char) (s t : List Char) :
    pieces mark (s ++ mark :: t) = pieces mark s ++ pieces mark t := by
  simp [pieces_eq_splitOn, List.splitOn, List.splitOnP_append_cons]

theorem pieces_of_notMem (h : mark ∉ s) : pieces mark s = [s] := by
  induction s with
  | nil => rfl
  | cons c rest ih =>
    rw [List.mem_cons, not_or] at h
    rw [pieces, if_neg (Ne.symm h.1), ih h.2]

/-- The other characters occur in the pieces as often as in the text. -/
theorem count_flatten_pieces (hc : c ≠ mark) : (pieces mark s).flatten.count c = s.count c := by
  induction s with
  | nil => rfl
  | cons a rest ih =>
    rw [pieces]
    split
    · next ha =>
      subst ha
      simp [hc.symm, ih]
    · cases hrest : pieces mark rest with
      | nil => exact absurd hrest (pieces_ne_nil mark rest)
      | cons piece others =>
        rw [hrest] at ih
        simpa [List.count_cons, Nat.add_right_comm] using ih

end BundleManifest.Text
