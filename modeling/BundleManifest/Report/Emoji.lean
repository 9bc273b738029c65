import BundleManifest.Report.Console
import BundleManifest.Text.Blank

/-!
# Pictures by name

A name between colons is replaced by the picture with that name, as in `:bug:`. Anything else between
colons stays, and the second of these colons does not begin a name.
-/

namespace BundleManifest.Report.Emoji

variable [Console]

/-- The two ways to show a picture: the word for each, and the character that asks for it. -/
def variants : List (List Char × Char) :=
  [("-emoji".toList, '\uFE0F'), ("-text".toList, '\uFE0E')]

/-- The picture for the text between two colons, which may end with the way to show it. -/
def picture? (s : List Char) : Option (List Char) :=
  match variants.find? fun (word, _) => word.isSuffixOf s with
  | some (word, mark) => (Console.picture? (s.take (s.length - word.length))).map (· ++ [mark])
  | none => Console.picture? s

/-- Replaces the names of pictures in a text. -/
def replace : List Char → List Char
  | [] => []
  | c :: rest =>
    if c = ':' then
      let name := rest.takeWhile (· ≠ ':')
      if name.length < rest.length && !name.any Text.isBlank then
        (picture? name).getD (':' :: name ++ [':']) ++ replace (rest.drop (name.length + 1))
      else c :: replace rest
    else c :: replace rest
  termination_by s => s.length
  decreasing_by all_goals simp only [List.length_drop, List.length_cons]; omega

end BundleManifest.Report.Emoji
