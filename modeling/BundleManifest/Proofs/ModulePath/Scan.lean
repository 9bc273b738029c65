import BundleManifest.ModulePath.Scan
import Mathlib.Data.List.Basic

/-!
# Module paths by segments and in one pass

`ModulePath.decode` cuts a path into segments, looks for the first one with a version mark, and puts
the others together again; `ModulePath.scan` reads the same path from left to right. The two agree on
every text.

What ties them together is the shape of a path with a mark (`Versioned`): leading segments without
one, a segment that is a name, the mark and a version, and the segments of the file.

* `joined_segments`: cutting a path into segments loses nothing;
* `exists_versioned`: a path with a version mark has the shape;
* `Versioned.decodeChars_eq`, `Versioned.scan_eq`: both readings return its parts;
* `decode_eq_scan`: the readings agree, and no version is made up.
-/

namespace BundleManifest.ModulePath

/-! ## Segments -/

/-- All segments but the first come with a separator in front of them. -/
theorem joined_cons (s : List Char) (rest : List (List Char)) :
    joined (s :: rest) = s ++ rest.flatMap (separator :: ·) := by
  induction rest generalizing s with
  | nil => simp [joined]
  | cons r rest ih =>
    rw [joined, List.intercalate_cons_cons, ← joined, ih]
    simp

/-- The segments of a path, put together again, are the path without its root separator. -/
theorem joined_segments (path : List Char) : joined (segments path) = unrooted path := by
  rw [joined, segments, Text.pieces_eq_splitOn, List.intercalate_splitOn]

/-- A segment may be cut anywhere, and what is behind the cut joined later. -/
theorem joined_append (lead : List (List Char)) (s t : List Char) (rest : List (List Char)) :
    joined (lead ++ (s ++ t) :: rest) =
      joined (lead ++ [s]) ++ (t ++ rest.flatMap (separator :: ·)) := by
  cases lead with
  | nil => simp [joined_cons]
  | cons l lead => simp [joined_cons]

theorem mem_joined {c : Char} {s : List Char} {parts : List (List Char)} (hs : s ∈ parts)
    (hc : c ∈ s) : c ∈ joined parts := by
  obtain ⟨lead, rest, rfl⟩ := List.append_of_mem hs
  -- Cut the segment at its very front, so that all of it comes behind the cut.
  rw [show s = [] ++ s from rfl, joined_append]
  simp [hc]

/-- Joining brings in no character but the separator. -/
theorem notMem_joined {c : Char} (hc : c ≠ separator) {parts : List (List Char)}
    (h : ∀ s ∈ parts, c ∉ s) : c ∉ joined parts := by
  cases parts with
  | nil => simp [joined]
  | cons s rest =>
    simp only [joined_cons, List.mem_append, List.mem_flatMap, List.mem_cons, not_or, not_exists,
      not_and]
    exact ⟨h s List.mem_cons_self, fun r hr => ⟨hc, h r (List.mem_cons_of_mem _ hr)⟩⟩

/-- The text of a segment and more segments is cut behind the segment. -/
theorem cut_joined {s : List Char} (h : separator ∉ s) (rest : List (List Char)) :
    cut separator (s ++ rest.flatMap (separator :: ·)) = (s, joined rest) := by
  cases rest with
  | nil => simpa [joined] using cut_of_notMem h
  | cons r rest => simpa [joined_cons] using cut_append h (r ++ rest.flatMap (separator :: ·))

/-! ## Paths with a version mark -/

/-- The segments of a path, taken apart at its first version mark. -/
structure Versioned (path : List Char) (lead : List (List Char)) (name version : List Char)
    (rest : List (List Char)) : Prop where
  segments_eq : segments path = lead ++ (name ++ versionMark :: version) :: rest
  lead_free : ∀ s ∈ lead, versionMark ∉ s
  name_free : versionMark ∉ name

/-- A path with a version mark can be taken apart at the first one. -/
theorem exists_versioned {path : List Char} (h : versionMark ∈ unrooted path) :
    ∃ lead name version rest, Versioned path lead name version rest := by
  -- Separators are no marks, so that the mark stands in a segment: take the first such segment, and
  -- in it the first mark.
  have hmem : ∃ s ∈ segments path, versionMark ∈ s := by
    by_contra hno
    push Not at hno
    rw [← joined_segments] at h
    exact notMem_joined (by decide) hno h
  have hfind : ((segments path).find? (·.contains versionMark)).isSome := by
    rw [List.find?_isSome]
    simpa using hmem
  obtain ⟨s, hs⟩ := Option.isSome_iff_exists.1 hfind
  obtain ⟨hmark, lead, rest, hsplit, hlead⟩ := List.find?_eq_some_iff_append.1 hs
  obtain ⟨name, version, rfl, hname⟩ := List.eq_append_cons_of_mem (by simpa using hmark)
  exact ⟨lead, name, version, rest, hsplit, by simpa using hlead, hname⟩

namespace Versioned

variable {path : List Char} {lead rest : List (List Char)} {name version : List Char}

/-- A path with a version put together again from its parts. -/
theorem unrooted_eq (h : Versioned path lead name version rest) :
    unrooted path =
      joined (lead ++ [name]) ++ versionMark :: (version ++ rest.flatMap (separator :: ·)) := by
  rw [← joined_segments, h.segments_eq, joined_append, List.cons_append]

/-- The name of the package, with all segments before it, has no version mark. -/
theorem package_free (h : Versioned path lead name version rest) :
    versionMark ∉ joined (lead ++ [name]) := by
  refine notMem_joined (by decide) fun s hs => ?_
  rcases List.mem_append.1 hs with hs | hs
  · exact h.lead_free s hs
  · exact List.mem_singleton.1 hs ▸ h.name_free

/-- The version has no separator: it is part of a segment. -/
theorem version_free (h : Versioned path lead name version rest) : separator ∉ version := by
  have hseg : name ++ versionMark :: version ∈ segments path := by simp [h.segments_eq]
  have hfree := Text.notMem_of_mem_pieces hseg
  simp only [List.mem_append, List.mem_cons, not_or] at hfree
  exact hfree.2.2

/-- The first segment with a version mark is the one behind the leading ones. -/
theorem packageSegment?_eq (h : Versioned path lead name version rest) :
    packageSegment? (segments path) = some lead.length := by
  rw [packageSegment?, h.segments_eq, List.findIdx?_append, List.findIdx?_eq_none_iff.2]
  · simp [List.findIdx?_cons]
  · simpa using h.lead_free

/-- Reading by segments returns the parts. -/
theorem decodeChars_eq (h : Versioned path lead name version rest) :
    decodeChars path = identity (joined (lead ++ [name])) version (joined rest) := by
  have hne : path ≠ [] := by
    rintro rfl
    simpa [unrooted] using h.unrooted_eq
  have hpart : (segments path).getD lead.length [] = name ++ versionMark :: version := by
    simp [h.segments_eq]
  have hname : ∀ c ∈ name, decide (c ≠ versionMark) = true := fun c hc =>
    decide_eq_true (ne_of_mem_of_not_mem hc h.name_free)
  have htake : (name ++ versionMark :: version).takeWhile (· ≠ versionMark) = name := by
    rw [List.takeWhile_append_of_pos hname]
    simp
  have hdrop : (name ++ versionMark :: version).dropWhile (· ≠ versionMark) =
      versionMark :: version := by
    rw [List.dropWhile_append_of_pos hname]
    simp
  rw [decodeChars, if_neg (by simpa using hne)]
  simp only [h.packageSegment?_eq, hpart, htake, hdrop]
  simp [h.segments_eq]

/-- Reading in one pass returns the parts. -/
theorem scan_eq (h : Versioned path lead name version rest) :
    scan path = identity (joined (lead ++ [name])) version (joined rest) := by
  have hmark : (unrooted path).contains versionMark = true := by simp [h.unrooted_eq]
  rw [scan, if_pos hmark, h.unrooted_eq, cut_append h.package_free]
  simp only [cut_joined h.version_free]

end Versioned

/-! ## The two readings -/

/-- Without a version mark, the first segment is the package and the others are the file. -/
theorem decodeChars_of_notMem {path : List Char} (h : versionMark ∉ unrooted path) :
    decodeChars path =
      identity (cut separator (unrooted path)).1 [] (cut separator (unrooted path)).2 := by
  by_cases hpath : path = []
  · subst hpath
    rfl
  -- A segment with a mark would put the mark into the path.
  have hnone : packageSegment? (segments path) = none := by
    rw [packageSegment?, List.findIdx?_eq_none_iff]
    intro s hs
    by_contra hmark
    rw [← joined_segments] at h
    exact h (mem_joined hs (by simpa using hmark))
  rw [decodeChars, if_neg (by simpa using hpath)]
  simp only [hnone]
  cases hparts : segments path with
  | nil => exact absurd hparts (Text.pieces_ne_nil _ _)
  | cons s rest =>
    have hs : s ∈ segments path := by simp [hparts]
    rw [← joined_segments, hparts, joined_cons, cut_joined (Text.notMem_of_mem_pieces hs)]
    rfl

/-- Without a version mark the path is cut at its first separator. -/
theorem scan_of_notMem {path : List Char} (h : versionMark ∉ unrooted path) :
    scan path = identity (cut separator (unrooted path)).1 [] (cut separator (unrooted path)).2 := by
  rw [scan, if_neg (by simpa using h)]

/-- The readings agree on every path. -/
theorem decodeChars_eq_scan (path : List Char) : decodeChars path = scan path := by
  by_cases h : versionMark ∈ unrooted path
  · obtain ⟨lead, name, version, rest, hv⟩ := exists_versioned h
    rw [hv.decodeChars_eq, hv.scan_eq]
  · rw [decodeChars_of_notMem h, scan_of_notMem h]

/-- A character of the path without its root separator is one of the path. -/
theorem mem_of_mem_unrooted {c : Char} {path : List Char} (h : c ∈ unrooted path) : c ∈ path := by
  cases path with
  | nil => exact h
  | cons d rest =>
    rw [unrooted] at h
    split at h
    · exact List.mem_cons_of_mem d h
    · exact h

/-- The version of a path never has a separator. -/
theorem separator_notMem_version (path : List Char) :
    separator ∉ (decodeChars path).version.toList := by
  by_cases h : versionMark ∈ unrooted path
  · obtain ⟨lead, name, version, rest, hv⟩ := exists_versioned h
    rw [hv.decodeChars_eq, identity, String.toList_ofList]
    exact hv.version_free
  · rw [decodeChars_of_notMem h]
    exact List.not_mem_nil

/-- Reading by segments is reading in one pass. In particular no version is made up: it is empty when
    the path has no version mark, and it never has a separator. -/
theorem decode_eq_scan (p : String) :
    decode p = scan p.toList ∧
      (versionMark ∉ p.toList → (decode p).version = "") ∧
      separator ∉ (decode p).version.toList := by
  refine ⟨decodeChars_eq_scan _, fun h => ?_, separator_notMem_version _⟩
  rw [decode, decodeChars_of_notMem fun hmem => h (mem_of_mem_unrooted hmem)]
  rfl

/-- A path with empty segments, a trailing separator and no version mark. -/
theorem version_of_unmarked_path :
    versionMark ∉ "//@scope//lib/".toList ∧ (decode "//@scope//lib/").version = "" :=
  ⟨by decide, (decode_eq_scan "//@scope//lib/").2.1 (by decide)⟩

example : scan "/@sc$ope/pkg$1.0.0/index".toList =
    { packageName := "@sc", version := "ope", fileName := "pkg$1.0.0/index" } := by
  decide

end BundleManifest.ModulePath
