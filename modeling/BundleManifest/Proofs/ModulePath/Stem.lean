import BundleManifest.Proofs.ModulePath.Scan

/-!
# Paths and the identities they spell out

An identity spells out a path (`Spells`): its stem, and the file name behind a separator. The
separator may be missing when there is no file name.

Reading a path and spelling out its identity are inverse to each other, up to the root separator, with
one exception: a version mark with no version behind it is read, and is not written again.

* `decode_spelled`: a path spelled out from an identity with a version is read as this identity;
* `spells_decode_iff`: an identity spells out the path it was read from, unless the path has a version
  mark without a version;
* `unrooted_eq_of_decode_eq`: two paths of an identity with a version differ in separators at their
  ends alone;
* `decode_roundtrip`: all of this at once.
-/

namespace BundleManifest.ModulePath

/-- An identity spells out a path without its root separator: the path is the stem and the file name,
    with a separator between them. Without a file name it may be the stem alone. -/
def Spells (i : Identity) (text : List Char) : Prop :=
  text = i.stem.toList ∧ i.fileName = "" ∨ text = (i.stem ++ "/" ++ i.fileName).toList

/-! ## Cuts -/

/-- The two parts of a cut text and the mark between them are the text. -/
theorem cut_eq_of_mem {mark : Char} {s : List Char} (h : mark ∈ s) :
    s = (cut mark s).1 ++ mark :: (cut mark s).2 := by
  obtain ⟨t, u, rfl, ht⟩ := List.eq_append_cons_of_mem h
  rw [cut_append ht]

/-! ## Stems of what is read -/

/-- What is read from a path with a mark, said without segments. -/
theorem decodeChars_of_eq {path name rest : List Char}
    (h : unrooted path = name ++ versionMark :: rest) (hname : versionMark ∉ name) :
    decodeChars path = identity name (cut separator rest).1 (cut separator rest).2 := by
  have hmark : (unrooted path).contains versionMark = true := by simp [h]
  rw [decodeChars_eq_scan, scan, if_pos hmark, h, cut_append hname]

/-- With a version, the stem is the package name, the mark and the version. -/
theorem toList_stem {i : Identity} (h : i.version ≠ "") :
    i.stem.toList = i.packageName.toList ++ versionMark :: i.version.toList := by
  rw [Identity.stem_of_version_ne_empty h]
  simp [versionMark]

theorem toList_stem_of_nil (name file : List Char) :
    (identity name [] file).stem.toList = name := by
  rw [Identity.stem_of_version_eq_empty rfl, identity, String.toList_ofList]

theorem toList_stem_of_ne_nil {version : List Char} (h : version ≠ []) (name file : List Char) :
    (identity name version file).stem.toList = name ++ versionMark :: version := by
  rw [toList_stem (by simpa [identity] using h)]
  simp [identity]

/-- A text is spelled out by a stem and a file that were cut out of it at a separator. -/
theorem spells_of_cut {i : Identity} {s t : List Char}
    (hstem : i.stem.toList = s ++ (cut separator t).1)
    (hfile : i.fileName.toList = (cut separator t).2) : Spells i (s ++ t) := by
  by_cases h : separator ∈ t
  · -- The separator at which the file was cut off is the one behind the stem.
    right
    rw [String.toList_append, String.toList_append, hstem, hfile]
    conv_lhs => rw [cut_eq_of_mem h]
    simp [separator]
  · left
    rw [cut_of_notMem h] at hstem hfile
    exact ⟨hstem.symm, String.toList_inj.1 hfile⟩

theorem cut_isPrefix (mark : Char) (s : List Char) : (cut mark s).1 <+: s := by
  by_cases h : mark ∈ s
  · exact ⟨_, (cut_eq_of_mem h).symm⟩
  · exact ⟨[], by rw [cut_of_notMem h, List.append_nil]⟩

namespace Versioned

variable {path : List Char} {lead rest : List (List Char)} {name version : List Char}

/-- The first segment with a version mark holds the name and the version. -/
theorem find?_segments (h : Versioned path lead name version rest) :
    (segments path).find? (·.contains versionMark) = some (name ++ versionMark :: version) := by
  rw [List.find?_eq_some_iff_append]
  exact ⟨by simp, lead, rest, h.segments_eq, by simpa using h.lead_free⟩

/-- A path with a version mark begins with the stem of what is read from it. -/
theorem stem_isPrefix (h : Versioned path lead name version rest) :
    (decodeChars path).stem.toList <+: unrooted path := by
  rw [h.decodeChars_eq, h.unrooted_eq]
  by_cases hv : version = []
  · rw [hv, toList_stem_of_nil]
    exact List.prefix_append _ _
  · rw [toList_stem_of_ne_nil hv, ← List.cons_append, ← List.append_assoc]
    exact List.prefix_append _ _

/-- The identity of a path with a version mark spells it out exactly when there is a version. -/
theorem spells_iff (h : Versioned path lead name version rest) :
    Spells (decodeChars path) (unrooted path) ↔ version ≠ [] := by
  rw [h.decodeChars_eq, h.unrooted_eq]
  constructor
  · -- Without a version the stem ends before the mark, where the path would need a separator.
    rintro (⟨htext, -⟩ | htext) rfl
    · simp [toList_stem_of_nil] at htext
    · simp [toList_stem_of_nil, versionMark] at htext
  · intro hv
    rw [show ∀ s t : List Char, s ++ versionMark :: t = (s ++ [versionMark]) ++ t by simp]
    -- The mark is followed by the version, which ends at the first separator.
    refine spells_of_cut ?_ ?_
    · rw [cut_joined h.version_free, toList_stem_of_ne_nil hv]
      simp
    · rw [cut_joined h.version_free, identity, String.toList_ofList]

end Versioned

/-! ## Reading and spelling out -/

/-- A path spelled out from an identity with a version is read as this identity. -/
theorem decode_spelled {i : Identity} {p : String} (hname : versionMark ∉ i.packageName.toList)
    (hversion : i.version ≠ "") (hfree : separator ∉ i.version.toList)
    (hp : Spells i (unrooted p.toList)) : decode p = i := by
  rw [decode]
  rcases hp with ⟨htext, hfile⟩ | htext
  · rw [toList_stem hversion] at htext
    rw [decodeChars_of_eq htext hname, cut_of_notMem hfree]
    simp [identity, ← hfile]
  · rw [String.toList_append, String.toList_append, toList_stem hversion, List.append_assoc,
      List.append_assoc, List.cons_append] at htext
    rw [decodeChars_of_eq htext hname, show "/".toList = [separator] from rfl,
      List.singleton_append, cut_append hfree]
    simp [identity]

/-- Every path begins with the stem of what is read from it, up to its root separator. -/
theorem stem_decodeChars_isPrefix (path : List Char) :
    (decodeChars path).stem.toList <+: unrooted path := by
  by_cases h : versionMark ∈ unrooted path
  · obtain ⟨lead, name, version, rest, hv⟩ := exists_versioned h
    exact hv.stem_isPrefix
  · rw [decodeChars_of_notMem h, toList_stem_of_nil]
    exact cut_isPrefix _ _

/-- Without a version mark, the identity spells out the path. -/
theorem spells_decodeChars_of_notMem {path : List Char} (h : versionMark ∉ unrooted path) :
    Spells (decodeChars path) (unrooted path) := by
  rw [decodeChars_of_notMem h]
  refine spells_of_cut (s := []) ?_ ?_
  · exact toList_stem_of_nil _ _
  · exact String.toList_ofList

/-- An identity spells out the path it was read from, unless the first segment with a version mark has
    no version. -/
theorem spells_decodeChars_iff (path : List Char) :
    Spells (decodeChars path) (unrooted path) ↔
      ∀ s, (segments path).find? (·.contains versionMark) = some s → (cut versionMark s).2 ≠ [] := by
  by_cases h : versionMark ∈ unrooted path
  · obtain ⟨lead, name, version, rest, hv⟩ := exists_versioned h
    rw [hv.spells_iff, hv.find?_segments]
    simp [cut_append hv.name_free]
  · refine iff_of_true (spells_decodeChars_of_notMem h) fun s hs => ?_
    have hmark : versionMark ∈ s := by simpa using List.find?_some hs
    rw [← joined_segments] at h
    exact absurd (mem_joined (List.mem_of_find?_eq_some hs) hmark) h

/-- An identity with a version spells out the path it was read from. -/
theorem spells_of_version_ne_empty {path : List Char} (h : (decodeChars path).version ≠ "") :
    Spells (decodeChars path) (unrooted path) := by
  by_cases hmark : versionMark ∈ unrooted path
  · obtain ⟨lead, name, version, rest, hv⟩ := exists_versioned hmark
    rw [hv.spells_iff]
    rintro rfl
    rw [hv.decodeChars_eq] at h
    exact h rfl
  · exact spells_decodeChars_of_notMem hmark

/-- Two texts that one identity spells out are equal, up to a separator behind the stem. -/
theorem eq_of_spells {i : Identity} {s t : List Char} (hs : Spells i s) (ht : Spells i t) :
    s = t ∨ i.fileName = "" ∧ (s = t ++ [separator] ∨ t = s ++ [separator]) := by
  -- Each text is the stem alone or has a separator behind it; only a stem alone leaves a choice.
  rcases hs with ⟨rfl, hfile⟩ | rfl <;> rcases ht with ⟨rfl, hfile'⟩ | rfl
  · exact .inl rfl
  · exact .inr ⟨hfile, .inr (by simp [hfile, separator])⟩
  · exact .inr ⟨hfile', .inl (by simp [hfile', separator])⟩
  · exact .inl rfl

/-- Reading paths and spelling out identities.

    * An identity with a version is read back from the path it spells out: the package name may be
      made of any segments without a version mark.
    * The stem of what is read from a path is always at the front of it. What is read spells out the
      path exactly when the first segment with a version mark, if there is one, has a version.
    * Two paths that are read as one identity with a version are equal up to the root separator, and,
      when there is no file name, up to one separator at the end. -/
theorem decode_roundtrip :
    (∀ (leading : List String) (name version file : String),
      (∀ s ∈ leading ++ [name], versionMark ∉ s.toList) → version ≠ "" →
      separator ∉ version.toList →
      let i : Identity := ⟨"/".intercalate (leading ++ [name]), version, file⟩
      decode ("/" ++ i.stem ++ "/" ++ file) = i ∧ (file = "" → decode ("/" ++ i.stem) = i)) ∧
    (∀ p : String,
      (decode p).stem.toList <+: unrooted p.toList ∧
      (Spells (decode p) (unrooted p.toList) ↔
        ∀ s, (segments p.toList).find? (·.contains versionMark) = some s →
          (cut versionMark s).2 ≠ [])) ∧
    (∀ p p' : String, decode p = decode p' → (decode p).version ≠ "" →
      unrooted p.toList = unrooted p'.toList ∨
      (decode p).fileName = "" ∧
        (unrooted p.toList = unrooted p'.toList ++ [separator] ∨
          unrooted p'.toList = unrooted p.toList ++ [separator])) := by
  refine ⟨fun leading name version file hname hversion hfree => ?_, fun p => ?_, fun p p' h hv => ?_⟩
  · have hpackage : versionMark ∉ ("/".intercalate (leading ++ [name])).toList := by
      rw [String.toList_intercalate]
      refine notMem_joined (by decide) fun s hs => ?_
      obtain ⟨t, ht, rfl⟩ := List.mem_map.1 hs
      exact hname t ht
    refine ⟨decode_spelled hpackage hversion hfree (.inr ?_), fun hfile =>
      decode_spelled hpackage hversion hfree (.inl ⟨?_, hfile⟩)⟩
    · simp [unrooted, separator]
    · simp [unrooted, separator]
  · exact ⟨stem_decodeChars_isPrefix _, spells_decodeChars_iff _⟩
  · have hv' : (decode p').version ≠ "" := h ▸ hv
    have hp' : Spells (decode p') (unrooted p'.toList) := spells_of_version_ne_empty hv'
    rw [← h] at hp'
    exact eq_of_spells (spells_of_version_ne_empty hv) hp'

/-- A scoped package with an empty name, a mark in its version and a file name that begins with a
    separator is read back; two paths of one version differ in separators at both ends. -/
theorem decode_roundtrip_scoped :
    (decode "/@scope/$1.0$x//lib" = ⟨"@scope/", "1.0$x", "/lib"⟩) ∧
      (decode "a$1/" = decode "/a$1" ∧ (decode "a$1/").version ≠ "" ∧
        (unrooted "a$1/".toList = unrooted "/a$1".toList ∨
        (decode "a$1/").fileName = "" ∧
          (unrooted "a$1/".toList = unrooted "/a$1".toList ++ [separator] ∨
            unrooted "/a$1".toList = unrooted "a$1/".toList ++ [separator]))) := by
  have hread : decode "a$1/" = decode "/a$1" := by decide
  have hversion : (decode "a$1/").version ≠ "" := by decide
  refine ⟨?_, hread, hversion, decode_roundtrip.2.2 _ _ hread hversion⟩
  exact (decode_roundtrip.1 ["@scope"] "" "1.0$x" "/lib" (by decide) (by decide) (by decide)).1

end BundleManifest.ModulePath
