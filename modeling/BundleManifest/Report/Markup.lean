import BundleManifest.Problem
import BundleManifest.Report.Emoji

/-!
# Markup

A text with markup has tags in brackets, which say how the text is shown on a terminal: `[bold]`
begins something, `[/bold]` or `[/]` ends it. Without a terminal nothing is left of them. A tag that
ends what has not begun is an error, and so is one that ends an action whose parameters cannot be
read.

A backslash before a tag makes it a part of the text. `escape` does this with all tags, so that the
text is shown as it is.
-/

namespace BundleManifest.Report.Markup

/-- A piece of a text with markup. -/
inductive Piece where
  | text (s : List Char)
  | tag (s : List Char)
  deriving DecidableEq, Repr

/-- Whether a tag can begin with a character. -/
def beginsTag (c : Char) : Bool :=
  ('a' ≤ c && c ≤ 'z') || c = '#' || c = '/' || c = '@'

/-- The tag at the beginning of a text, without its brackets. -/
def tag? (s : List Char) : Option (List Char) :=
  match s with
  | '[' :: c :: rest =>
    let body := rest.takeWhile fun c => c ≠ ']' && c ≠ '['
    if beginsTag c && (rest.drop body.length).head? = some ']' then some (c :: body) else none
  | _ => none

/-- Whether a character is a backslash. -/
def isBackslash (c : Char) : Bool :=
  c = '\\'

/-- The backslashes at the beginning of a text, and the tag behind them. -/
def escapedTag? (s : List Char) : Option (Nat × List Char) :=
  let n := (s.takeWhile isBackslash).length
  (tag? (s.drop n)).map (n, ·)

/-- A tag is found inside the text, with both of its brackets. -/
theorem length_of_tag? {s tag : List Char} (h : tag? s = some tag) : tag.length + 2 ≤ s.length := by
  unfold tag? at h
  split at h
  · rename_i c rest
    simp only [Option.ite_none_right_eq_some, Option.some.injEq] at h
    obtain ⟨hc, rfl⟩ := h
    have hlt : (rest.takeWhile fun c => c ≠ ']' && c ≠ '[').length < rest.length := by
      simp only [Bool.and_eq_true, decide_eq_true_eq] at hc
      have := hc.2
      rw [List.head?_drop] at this
      exact (List.getElem?_eq_some_iff.1 this).1
    simp only [List.length_cons]
    omega
  · simp at h

/-- A tag and the backslashes before it are inside the text. -/
theorem length_of_escapedTag? {s tag : List Char} {n : Nat} (h : escapedTag? s = some (n, tag)) :
    n + tag.length + 2 ≤ s.length := by
  simp only [escapedTag?, Option.map_eq_some_iff, Prod.mk.injEq] at h
  obtain ⟨t, ht, hn, rfl⟩ := h
  have h := length_of_tag? ht
  subst hn
  rw [List.length_drop] at h
  omega

/-- The text piece with some characters, unless there are none. -/
def textPiece (s : List Char) : List Piece :=
  if s.isEmpty then [] else [.text s]

/-- Cuts a text into pieces, with the characters of the open piece of text, the last one first. Of the
    backslashes before a tag each pair is one, and a single one makes the tag a piece of text. -/
def piecesFrom (acc : List Char) (s : List Char) : List Piece :=
  match _found : escapedTag? s with
  | some (n, tag) =>
    textPiece acc.reverse ++ textPiece (List.replicate (n / 2) '\\')
      ++ (if n % 2 = 1 then .text ('[' :: tag ++ [']']) else .tag tag)
        :: piecesFrom [] (s.drop (n + tag.length + 2))
  | none =>
    match s with
    | [] => textPiece acc.reverse
    | c :: rest => piecesFrom (c :: acc) rest
  termination_by s.length
  decreasing_by
    · have := length_of_escapedTag? _found
      rw [List.length_drop]
      omega
    · simp

/-- The pieces of a text. -/
def pieces (s : List Char) : List Piece :=
  piecesFrom [] s

/-- A text without the backslashes before opening brackets. -/
def unescaped : List Char → List Char
  | '\\' :: '[' :: rest => '[' :: unescaped rest
  | c :: rest => c :: unescaped rest
  | [] => []

/-! ## Tags -/

variable [Console]

/-- A tag that has begun something. -/
structure OpenTag where
  /-- The name under which its style is known. -/
  name : String
  /-- Its parameters, if it has any. -/
  parameters : List Char
  deriving DecidableEq, Repr

/-- Whether a tag can be ended: what it is given for an action must be readable. -/
def OpenTag.isReadable (t : OpenTag) : Bool :=
  t.name.toList.head? ≠ some '@' || t.parameters.isEmpty || Console.readsAction t.parameters

/-- What is open after the innermost tag of a kind is ended, given what is open, the innermost
    first. -/
def ended (opened : List OpenTag) (isMeant : OpenTag → Bool) : Except Problem (List OpenTag) :=
  match opened.find? isMeant with
  | some t => if t.isReadable then .ok (opened.eraseP isMeant) else .error .markup
  | none => .error .markup

/-- What is open after a tag, the innermost first. -/
def afterTag (opened : List OpenTag) (tag : List Char) : Except Problem (List OpenTag) :=
  let body := tag.takeWhile (· ≠ '=')
  match body with
  | '/' :: rest =>
    let name := Text.strip rest
    ended opened fun t => name.isEmpty || t.name = Console.styleName name
  | _ => .ok (⟨Console.styleName body, tag.drop (body.length + 1)⟩ :: opened)

/-- The text of some pieces, given what is open. -/
def textOf (opened : List OpenTag) : List Piece → Except Problem (List Char)
  | [] => .ok []
  | .text s :: rest => (textOf opened rest).map (Emoji.replace (unescaped s) ++ ·)
  | .tag s :: rest => do textOf (← afterTag opened s) rest

/-- The text that is left of a text with markup. -/
def render (s : List Char) : Except Problem (List Char) :=
  if s.contains '[' then textOf [] (pieces s) else .ok (Emoji.replace s)

/-- Puts backslashes before all tags of a text, with the backslashes there twice. -/
def escapeTags (s : List Char) : List Char :=
  match _found : escapedTag? s with
  | some (n, tag) =>
    List.replicate (2 * n + 1) '\\' ++ '[' :: tag ++ ']' :: escapeTags (s.drop (n + tag.length + 2))
  | none =>
    match s with
    | [] => []
    | c :: rest => c :: escapeTags rest
  termination_by s.length
  decreasing_by
    · have := length_of_escapedTag? _found
      rw [List.length_drop]
      omega
    · simp

/-- A text with markup that stands for a text. A single backslash at the end is written twice. -/
def escape (s : List Char) : List Char :=
  let t := escapeTags s
  if (t.reverse.takeWhile isBackslash).length = 1 then t ++ ['\\'] else t

end BundleManifest.Report.Markup
