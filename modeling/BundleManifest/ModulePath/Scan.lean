import BundleManifest.ModulePath

/-!
# Reading a module path in one pass

`ModulePath.scan` reads a path character by character, with no list of segments. The path without
its root separator is cut at its first version mark if it has one, and else at its first separator:

* with a mark, the package name ends at the mark, the version runs from there to the next separator,
  and the file name is what follows that separator;
* without one, the package name ends at the first separator, there is no version, and the file name is
  what follows that separator.
-/

namespace BundleManifest.ModulePath

/-- The text before the first `mark`, and the text after it. The second is empty when there is no
    `mark`. -/
def cut (mark : Char) : List Char → List Char × List Char
  | [] => ([], [])
  | c :: rest =>
    if c = mark then ([], rest)
    else
      let (before, after) := cut mark rest
      (c :: before, after)

/-- Without a mark, the cut is at the end. -/
theorem cut_of_notMem {mark : Char} {s : List Char} (h : mark ∉ s) : cut mark s = (s, []) := by
  induction s with
  | nil => rfl
  | cons c s ih =>
    rw [List.mem_cons, not_or] at h
    rw [cut, if_neg (Ne.symm h.1), ih h.2]

/-- The cut is at the first mark, whatever comes behind it. -/
theorem cut_append {mark : Char} {s : List Char} (h : mark ∉ s) (t : List Char) :
    cut mark (s ++ mark :: t) = (s, t) := by
  induction s with
  | nil => simp [cut]
  | cons c s ih =>
    rw [List.mem_cons, not_or] at h
    rw [List.cons_append, cut, if_neg (Ne.symm h.1), ih h.2]

/-- The identity of the module at a path, read in one pass. -/
def scan (path : List Char) : Identity :=
  let text := unrooted path
  if text.contains versionMark then
    let (name, rest) := cut versionMark text
    let (version, file) := cut separator rest
    identity name version file
  else
    let (name, file) := cut separator text
    identity name [] file

end BundleManifest.ModulePath
