/-!
# Pieces of a text

A text is cut at every occurrence of a mark. The pieces are always one more than the occurrences, so
that putting them together with the mark gives the text back. Without cutting it, one can ask whether
a part occurs in it.
-/

namespace BundleManifest.Text

/-- Whether a part occurs in a text. -/
def occurs (part : List Char) : List Char → Bool
  | [] => part.isEmpty
  | c :: rest => part.isPrefixOf (c :: rest) || occurs part rest

/-- The pieces of a text between the occurrences of `mark`: always one more than these. -/
def pieces (mark : Char) : List Char → List (List Char)
  | [] => [[]]
  | c :: rest =>
    if c = mark then [] :: pieces mark rest
    else match pieces mark rest with
      | [] => [[c]]
      | p :: ps => (c :: p) :: ps

@[simp]
theorem pieces_ne_nil (mark : Char) (s : List Char) : pieces mark s ≠ [] := by
  cases s with
  | nil => simp [pieces]
  | cons c rest => grind [pieces]

/-- The pieces are those of the list library. -/
theorem pieces_eq_splitOn (mark : Char) (s : List Char) : pieces mark s = s.splitOn mark := by
  induction s with
  | nil => rfl
  | cons c rest ih =>
    rw [pieces, List.splitOn_cons_eq_if_modifyHead, ← ih]
    cases h : pieces mark rest with
    | nil => exact absurd h (pieces_ne_nil mark rest)
    | cons p ps => simp

/-- No piece holds the mark. -/
theorem notMem_of_mem_pieces {mark : Char} {s p : List Char} (h : p ∈ pieces mark s) :
    mark ∉ p := by
  induction s generalizing p with
  | nil => simp_all [pieces]
  | cons c rest ih =>
    rw [pieces] at h
    split at h
    · rcases List.mem_cons.1 h with rfl | h
      · exact List.not_mem_nil
      · exact ih h
    · next hc =>
      -- The first piece of the rest grows by `c`, and the others stay.
      cases hrest : pieces mark rest with
      | nil => exact absurd hrest (pieces_ne_nil mark rest)
      | cons q qs =>
        rw [hrest] at h ih
        rcases List.mem_cons.1 h with rfl | h
        · rw [List.mem_cons, not_or]
          exact ⟨Ne.symm hc, ih List.mem_cons_self⟩
        · exact ih (List.mem_cons_of_mem _ h)

/-- A character other than the mark is in one of the pieces if it is in the text. -/
theorem exists_mem_pieces_iff {c mark : Char} {s : List Char} (hc : c ≠ mark) :
    (∃ piece ∈ pieces mark s, c ∈ piece) ↔ c ∈ s := by
  induction s with
  | nil => simp [pieces]
  | cons a rest ih =>
    rw [List.mem_cons, ← ih, pieces]
    split
    · next ha =>
      subst ha
      simp [hc]
    · cases hrest : pieces mark rest with
      | nil => exact absurd hrest (pieces_ne_nil mark rest)
      | cons piece others => simp [or_assoc]

end BundleManifest.Text
