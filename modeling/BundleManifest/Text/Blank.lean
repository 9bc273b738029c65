/-!
# White space around text

White space is what the character database calls so, and the four separators of information. A text is
*stripped* by taking white space from both its ends.
-/

namespace BundleManifest.Text

/-- Whether a character is white space. -/
def isBlank (c : Char) : Bool :=
  let n := c.toNat
  (0x09 ≤ n && n ≤ 0x0D) || (0x1C ≤ n && n ≤ 0x20) || n = 0x85 || n = 0xA0 || n = 0x1680
    || (0x2000 ≤ n && n ≤ 0x200A) || n = 0x2028 || n = 0x2029 || n = 0x202F || n = 0x205F
    || n = 0x3000

/-- A text without the characters of a class at its end. -/
def stripRight (drop : Char → Bool) (text : List Char) : List Char :=
  (text.reverse.dropWhile drop).reverse

/-- A text without white space at its ends. -/
def strip (text : List Char) : List Char :=
  stripRight isBlank (text.dropWhile isBlank)

theorem dropWhile_eq_nil_iff {drop : Char → Bool} {text : List Char} :
    text.dropWhile drop = [] ↔ ∀ c ∈ text, drop c := by
  induction text with
  | nil => simp
  | cons c text ih => by_cases h : drop c <;> simp [h, ih]

theorem stripRight_eq_nil_iff {drop : Char → Bool} {text : List Char} :
    stripRight drop text = [] ↔ ∀ c ∈ text, drop c := by
  simp only [stripRight, List.reverse_eq_nil_iff, dropWhile_eq_nil_iff, List.mem_reverse]

/-- Nothing is left of a text exactly when all of it is white space. -/
theorem strip_eq_nil_iff {text : List Char} : strip text = [] ↔ ∀ c ∈ text, isBlank c := by
  rw [strip, stripRight_eq_nil_iff]
  constructor
  · intro h c hc
    by_cases hd : c ∈ text.dropWhile isBlank
    · exact h c hd
    · rw [← List.takeWhile_append_dropWhile (p := isBlank) (l := text)] at hc
      rcases List.mem_append.1 hc with ht | ht
      · have := List.all_takeWhile (p := isBlank) (l := text)
        exact List.all_eq_true.1 this c ht
      · exact absurd ht hd
  · intro h c hc
    exact h c ((List.dropWhile_sublist _).subset hc)

end BundleManifest.Text
