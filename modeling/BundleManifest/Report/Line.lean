import BundleManifest.Report.Markup

/-!
# Lines for the terminal

A text for the terminal may have markup, or is shown as it is. In both cases names of pictures are
replaced, control characters that would move the cursor are left out, and tabs become spaces.

A *status line* tells how something went by its first character.
-/

namespace BundleManifest.Report

variable [Console]

/-- Whether a character moves the cursor, or rings the bell. -/
def isControl (c : Char) : Bool :=
  c = '\x07' || c = '\x08' || c = '\x0B' || c = '\x0C' || c = '\r'

/-- The text that is shown for a text, with markup or without. -/
def plain (hasMarkup : Bool) (s : List Char) : Except Problem (List Char) :=
  (if hasMarkup then Markup.render s else .ok (Emoji.replace s)).map (·.filter (!isControl ·))

/-- The distance of the positions to which tabs lead. -/
def tabSize : Nat := 8

/-- A line from a cell on with spaces for tabs. -/
def withoutTabs (cell : Nat) : List Char → List Char
  | [] => []
  | c :: rest =>
    if c = '\t' then
      let n := tabSize - cell % tabSize
      List.replicate n ' ' ++ withoutTabs (cell + n) rest
    else c :: withoutTabs (cell + Console.charWidth c) rest

/-- The lines of a text, without tabs. -/
def lines (s : List Char) : List (List Char) :=
  (Text.pieces '\n' s).map (withoutTabs 0)

/-- Lines as a text in which each of them has an end. -/
def unlines (ls : List (List Char)) : List Char :=
  ls.flatMap (· ++ ['\n'])

/-- How something went. -/
inductive Level where
  | success
  | warning
  | error
  deriving DecidableEq, Repr

namespace Level

/-- The character for how something went. -/
def mark : Level → Char
  | success => '✓'
  | warning => '⚠'
  | error => '✗'

/-- The color of this character. -/
def color : Level → String
  | success => "green"
  | warning => "yellow"
  | error => "red"

/-- The mark before a message, with its color as markup. -/
def coloredMark (l : Level) : List Char :=
  ("[" ++ l.color ++ "]").toList ++ l.mark :: ("[/" ++ l.color ++ "] ").toList

end Level

/-- The status line for a message, which is written with markup if lines are to be rich. -/
def statusText (rich : Bool) (l : Level) (message : List Char) : Except Problem (List Char) :=
  plain rich (if rich then l.coloredMark ++ Markup.escape message else l.mark :: ' ' :: message)

/-- The lines of a status line: a message can have several of them. -/
def statusLine (rich : Bool) (l : Level) (message : String) : Except Problem String :=
  (statusText rich l message.toList).map fun s => String.ofList (unlines (lines s))

end BundleManifest.Report
