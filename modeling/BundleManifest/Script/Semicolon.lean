import BundleManifest.Script.Charset

/-!
# Statements that end without a semicolon

A statement may end without a semicolon before a closing brace, at the end of the script, and at a
line end, unless the next line begins with a mark that continues the statement. `Semicolon.isImplied`
decides this on the text that follows the last token of a statement.

Comments belong to the white space, with one exception: a comment before the line end hides that line
end when an operator may follow, so that the decision is taken again behind the comment.
-/

namespace BundleManifest.Script.Semicolon

/-- The text behind a block comment, whose opening mark has been read, and whether the comment spans a
    line end. -/
def afterBlock (newline : Bool) : List Char → Bool × List Char
  | '*' :: '/' :: rest => (newline, rest)
  | c :: rest => afterBlock (newline || isLineBreak c) rest
  | [] => (newline, [])

/-- Behind a comment there is no more text than before it. -/
theorem length_afterBlock_le (newline : Bool) (s : List Char) :
    (afterBlock newline s).2.length ≤ s.length := by
  fun_induction afterBlock newline s with
  | case1 => simp; omega
  | case2 newline c rest _ ih => exact Nat.le_succ_of_le ih
  | case3 => simp

theorem length_dropWhile_le {α : Type} (p : α → Bool) (s : List α) :
    (s.dropWhile p).length ≤ s.length :=
  (List.dropWhile_sublist p).length_le

/-- The text behind white space and comments, or nothing if a mark stands there that begins neither.
    With `whole` all of them are read, and otherwise only up to the end of a block comment. The first
    component says whether anything but a comment within one line was read. -/
def gap (whole newline : Bool) (s : List Char) : Option (Bool × List Char) :=
  match _h : s.dropWhile isBreakable with
  | '/' :: '/' :: rest => gap whole newline (rest.dropWhile (!isLineBreak ·))
  | '/' :: '*' :: rest =>
    let behind := afterBlock newline rest
    if !whole && behind.2.head? ≠ some '/' then some behind
    else gap whole behind.1 behind.2
  | '/' :: _ => none
  | rest => some (true, rest)
  termination_by s.length
  decreasing_by
  · have h₁ := congrArg List.length _h
    have h₂ := length_dropWhile_le isBreakable s
    have h₃ := length_dropWhile_le (!isLineBreak ·) rest
    simp at h₁
    omega
  · have h₁ := congrArg List.length _h
    have h₂ := length_dropWhile_le isBreakable s
    have h₃ := length_afterBlock_le newline rest
    simp at h₁
    omega

/-- Skipping white space and comments leaves no more text than there was. -/
theorem length_le_of_gap {whole newline : Bool} {s : List Char} {r : Bool × List Char}
    (h : gap whole newline s = some r) : r.2.length ≤ s.length := by
  fun_induction gap whole newline s with
  | case1 newline s rest hs ih =>
    have h₁ := congrArg List.length hs
    have h₂ := length_dropWhile_le isBreakable s
    have h₃ := length_dropWhile_le (!isLineBreak ·) rest
    have := ih h
    simp at h₁
    omega
  | case2 newline s rest hs behind _ =>
    have h₁ := congrArg List.length hs
    have h₂ := length_dropWhile_le isBreakable s
    have h₃ := length_afterBlock_le newline rest
    simp at h₁ h
    subst h
    simp only [behind]
    omega
  | case3 newline s rest hs behind _ ih =>
    have h₁ := congrArg List.length hs
    have h₂ := length_dropWhile_le isBreakable s
    have h₃ := length_afterBlock_le newline rest
    have := ih h
    simp only [behind] at this
    simp at h₁
    omega
  | case4 => simp at h
  | case5 newline s =>
    have h₂ := length_dropWhile_le isBreakable s
    simp at h
    subst h
    exact h₂

/-- Whether the text begins with the operator `in` or `instanceof`, and not with a longer name. -/
def beginsWithRelation : List Char → Bool
  | 'i' :: 'n' :: rest =>
    let isLetter (c : Option Char) : Bool := (c.map fun c => c.isAlpha || 0x80 ≤ c.toNat).getD false
    let longer := "stanceof".toList
    if !isLetter rest.head? then true
    else if longer.isPrefixOf rest then !isLetter (rest.drop longer.length).head?
    else false
  | _ => false

/-- The marks that continue a statement at the beginning of a line. -/
def continuing : List Char := "`,:;*%><=[(?^|&/".toList

/-- Whether a line that begins with this text begins a new statement. -/
def beginsStatement (s : List Char) : Bool :=
  match s with
  | [] => true
  | '.' :: rest => (rest.head?.map Char.isDigit).getD false
  | '+' :: rest => rest.head? = some '+'
  | '-' :: rest => rest.head? = some '-'
  | '!' :: rest => rest.head? ≠ some '='
  | c :: _ => !continuing.contains c && !beginsWithRelation s

/-- Whether a statement ends before this text without a semicolon. `operator` says whether an operator
    might follow the last token of the statement. -/
def isImplied (operator : Bool) (s : List Char) : Bool :=
  if s.isEmpty then true
  else
    match _h : (if s.head? = some '/' then gap false false s else some (false, s)) with
    | none => false
    | some (passed, behind) =>
      if passed && !operator && behind.head? ≠ some ',' && behind.head? ≠ some '=' then true
      else
        match behind with
        | [] => false
        | c :: rest =>
          if c = '}' then true
          else if isLineBreak c then
            match gap true false rest with
            | none => false
            | some (_, line) => beginsStatement line
          else if isBreakable c then isImplied operator rest
          else false
  termination_by s.length
  decreasing_by
    have : (c :: rest).length ≤ s.length := by
      split at _h
      · exact length_le_of_gap _h
      · simp only [Option.some.injEq, Prod.mk.injEq] at _h
        exact Nat.le_of_eq (congrArg List.length _h.2.symm)
    simp only [List.length_cons] at this
    omega

end BundleManifest.Script.Semicolon
