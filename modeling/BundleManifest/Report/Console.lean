import BundleManifest.Number.Total

/-!
# The console

Texts are shown on a *console*. How wide it is, how much room a character takes, which names stand for
pictures and how styles are called is not decided here: it depends on the terminal and on the version
of the library that writes to it. A console says so, and promises what texts rely on.
-/

namespace BundleManifest.Report

/-- Whether a character has a meaning of its own in texts for the console: as a colon around a name,
    as part of the markup, or as a control character. -/
def isMark (c : Char) : Bool :=
  c = ':' || c = '[' || c = '\\' || c.toNat < 32 || (127 ≤ c.toNat && c.toNat < 160)

/-- What is known about the console. -/
class Console where
  /-- The number of cells of a line. -/
  width : Nat
  /-- The number of cells of a character. -/
  charWidth : Char → Nat
  /-- The picture with a name, as the name is written between two colons. -/
  picture? : List Char → Option (List Char)
  /-- The name under which a style is known. -/
  styleName : List Char → String
  /-- Whether the parameters of a tag for an action can be read. -/
  readsAction : List Char → Bool
  /-- A space takes one cell. -/
  charWidth_space : charWidth ' ' = 1
  /-- Neither a picture nor its name has a mark in it. -/
  notMem_of_picture? : ∀ {name picture : List Char} {c : Char},
    picture? name = some picture → isMark c → c ∉ name ∧ c ∉ picture

/-! ## The width of texts -/

variable [Console]

/-- The number of cells of a text. -/
def width (s : List Char) : Nat :=
  Number.total (s.map Console.charWidth)

@[simp]
theorem width_nil : width [] = 0 := rfl

@[simp]
theorem width_cons (c : Char) (s : List Char) : width (c :: s) = Console.charWidth c + width s := by
  simp [width]

@[simp]
theorem width_append (s t : List Char) : width (s ++ t) = width s + width t := by
  simp [width]

/-- The width of spaces is their number. -/
@[simp]
theorem width_replicate_space (n : Nat) : width (List.replicate n ' ') = n := by
  induction n with
  | zero => rfl
  | succ n ih => simp [List.replicate_succ, ih, Console.charWidth_space, Nat.add_comm]

end BundleManifest.Report
