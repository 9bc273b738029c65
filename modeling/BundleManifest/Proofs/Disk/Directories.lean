import BundleManifest.Proofs.Disk.Frame
import BundleManifest.Proofs.Text.Pieces
import Mathlib.Data.List.Infix

/-!
# Making directories

A directory is made together with the directories above it. Which directories these are is read off
the path and not off the disk: a path *encloses* another one when it has the same root and its names
are the first names of the other one. With a name `..` among them they need not lie above each other
on the disk.

Making a directory may fail half-way, with some of the directories above it made. This is why the
result is stated without asking for success: whatever happened, what changed was at paths that enclose
the path. The recursion goes up to the parent first, and so does the induction.

* `hasDirectory_of_encloses`: when a path leads to a directory, so do the paths that enclose it;
* `Disk.Built`: nothing changed but that directories were made at paths that enclose a path;
* `makeDirectories_built`: this is what making directories does, whether or not it succeeds.
-/

namespace BundleManifest

namespace Path

variable {p q r : Path}

/-- The path `q` has the root of `p`, and its names are the first names of `p`. -/
structure Encloses (q p : Path) : Prop where
  root : q.root = p.root
  names : q.names <+: p.names

theorem Encloses.refl (p : Path) : p.Encloses p :=
  ⟨rfl, List.prefix_refl _⟩

theorem Encloses.of_parent (h : q.Encloses p.parent) : q.Encloses p :=
  ⟨h.root, h.names.trans (List.dropLast_prefix _)⟩

theorem Encloses.eq_of_names_eq (h : q.Encloses p) (hnames : q.names = p.names) : q = p := by
  cases q
  cases p
  rw [Path.mk.injEq]
  exact ⟨h.root, hnames⟩

/-- A path whose text is followed name by name: a relative one has no name that is empty or holds a
    separator. -/
def Proper (p : Path) : Prop :=
  p.root = .relative → ∀ name ∈ p.names, name ≠ "" ∧ separator ∉ name.toList

/-- The path of a text has none of the names that cannot be followed. -/
theorem proper_ofText (text : String) : (ofText text).Proper := by
  intro _ name hname
  simp only [ofText, namesOf, List.mem_filter, List.mem_map, decide_eq_true_eq] at hname
  obtain ⟨⟨piece, hpiece, rfl⟩, hne, _⟩ := hname
  exact ⟨hne, by simpa using Text.notMem_of_mem_pieces hpiece⟩

theorem Proper.parent (h : p.Proper) : p.parent.Proper :=
  fun hroot name hname => h hroot name (List.mem_of_mem_dropLast hname)

theorem Proper.join (h : p.Proper) (text : String) : (p.join text).Proper := by
  rw [Path.join]
  split
  · next hrelative =>
    intro hroot name hname
    rcases List.mem_append.1 hname with hname | hname
    · exact h hroot name hname
    · exact proper_ofText text hrelative name hname
  · exact proper_ofText text

theorem text_of_names_ne_nil (h : p.names ≠ []) :
    p.text = p.root.text ++ "/".intercalate p.names := by
  simp [text, h]

/-- No path is written as the empty text, which leads nowhere. -/
theorem Proper.text_ne_empty (h : p.Proper) : p.text ≠ "" := by
  by_cases hnames : p.names = []
  · cases hroot : p.root <;> simp [text, hnames, hroot, hereName, Root.text]
  · obtain ⟨name, rest, hcons⟩ := List.exists_cons_of_ne_nil hnames
    rw [text_of_names_ne_nil hnames]
    cases hroot : p.root with
    | relative =>
      have hname := (h hroot name (by simp [hcons])).1
      cases rest <;> simp [hcons, Root.text, hname, String.intercalate_cons_cons]
    | single | double => simp [Root.text]

/-- The text of a path goes on where that of a path that encloses it ends. -/
theorem Encloses.text_eq (h : q.Encloses p) (hq : q.names ≠ []) (hp : q.names ≠ p.names) :
    ∃ rest, p.text = q.text ++ "/" ++ rest := by
  obtain ⟨rest, hrest⟩ := h.names
  have hne : rest ≠ [] := by
    rintro rfl
    exact hp (by simpa using hrest)
  refine ⟨"/".intercalate rest, ?_⟩
  rw [text_of_names_ne_nil hq, text_of_names_ne_nil (by simp [← hrest, hq]), ← hrest, h.root,
    String.intercalate_append_of_ne_nil hq hne]
  simp [String.append_assoc]

end Path

namespace Disk

variable {d d' d'' : Disk} {place : Place} {p q : Path}

/-! ## Directories on the way -/

theorem namesIn_append (s t : String) : namesIn (s ++ "/" ++ t) = namesIn s ++ namesIn t := by
  simp [namesIn, Path.separator, Text.pieces_append_cons]

theorem namesIn_ne_nil (s : String) : namesIn s ≠ [] := by
  simp [namesIn]

/-- What a separator follows in a path leads to a directory, and what is behind the separator is
    followed from there. -/
theorem exists_locate_of_append {s t : String} (hs : s ≠ "")
    (h : d.locate (s ++ "/" ++ t) = .ok place) :
    ∃ between, d.locate s = .ok between ∧ d.get? between = some .directory ∧
      d.follow between (namesIn t) = .ok place := by
  obtain ⟨hchars, -, hsize, hfollow⟩ := locate_eq_ok_iff.1 h
  have hstart : d.start (s ++ "/" ++ t) = d.start s := by
    simp [start, List.head?_append, List.head?_eq_some_head (mt String.toList_eq_nil_iff.1 hs)]
  -- The names behind the separator, at least one, are followed from where those before it lead.
  rw [hstart, namesIn_append, follow_append_eq_ok_iff] at hfollow
  obtain ⟨between, hfront, hback⟩ := hfollow
  have hdirectory : d.get? between = some .directory := by
    obtain ⟨name, names, hnames⟩ := List.exists_cons_of_ne_nil (namesIn_ne_nil t)
    rw [hnames, follow_cons_eq_ok_iff] at hback
    exact hback.1
  refine ⟨between, locate_eq_ok_iff.2 ⟨?_, hs, ?_, hfront⟩, hdirectory, hback⟩
  · simp_all
  · simp only [String.utf8ByteSize_append] at hsize
    omega

/-- The texts of the roots lead to the root. -/
theorem locate_root {root : Path.Root} (h : root ≠ .relative) : d.locate root.text = .ok [] := by
  refine locate_eq_ok_iff.2 ?_
  cases root with
  | relative => exact absurd rfl h
  | single =>
    have hnames : namesIn "/" = ["", ""] := by decide
    exact ⟨by decide, by decide, by decide, by
      simp [Path.Root.text, hnames, follow, start, Path.separator]⟩
  | double =>
    have hnames : namesIn "//" = ["", "", ""] := by decide
    exact ⟨by decide, by decide, by decide, by
      simp [Path.Root.text, hnames, follow, start, Path.separator]⟩

theorem locate_here (h : d.get? d.home = some .directory) : d.locate Path.hereName = .ok d.home := by
  have hnames : namesIn Path.hereName = [Path.hereName] := by decide
  have hstart : d.start Path.hereName = d.home := if_neg (by decide)
  refine locate_eq_ok_iff.2 ⟨by decide, by decide, by decide, ?_⟩
  simp [hnames, hstart, follow, h]

/-- A path without names leads to the root or, if it is relative, to the working directory. -/
theorem locate_of_names_eq_nil (hnames : p.names = [])
    (hhome : p.root = .relative → d.get? d.home = some .directory) :
    d.locate p.text = .ok (if p.root = .relative then d.home else []) := by
  by_cases hroot : p.root = .relative
  · simpa [Path.text, hnames, hroot] using locate_here (hhome hroot)
  · simpa [Path.text, hnames, hroot] using locate_root hroot

/-- A relative path is followed from the working directory, which has to be a directory. -/
theorem get?_home_of_locate (hp : p.Proper) (hroot : p.root = .relative)
    (h : d.locate p.text = .ok place) :
    d.get? d.home = some .directory := by
  obtain ⟨-, -, -, hfollow⟩ := locate_eq_ok_iff.1 h
  -- The text does not begin with a separator, for its first name is not empty and holds none.
  have hstart : d.start p.text = d.home := by
    refine if_neg fun hhead => ?_
    by_cases hnames : p.names = []
    · simp [Path.text, hroot, hnames, Path.hereName, Path.separator] at hhead
    · obtain ⟨name, rest, hcons⟩ := List.exists_cons_of_ne_nil hnames
      have hname := hp hroot name (by simp [hcons])
      rw [Path.text_of_names_ne_nil hnames, hroot, hcons] at hhead
      have hhead' : name.toList.head? = some Path.separator := by
        cases rest with
        | nil => simpa [Path.Root.text] using hhead
        | cons _ _ => simpa [Path.Root.text, String.intercalate_cons_cons, List.head?_append,
            List.head?_eq_some_head (mt String.toList_eq_nil_iff.1 hname.1)] using hhead
      exact hname.2 (List.mem_of_mem_head? hhead')
  obtain ⟨name, names, hnames⟩ := List.exists_cons_of_ne_nil (namesIn_ne_nil p.text)
  rw [hstart, hnames, follow_cons_eq_ok_iff] at hfollow
  exact hfollow.1

/-- When a path leads to a directory, so do the paths that enclose it. -/
theorem hasDirectory_of_encloses (hp : p.Proper) (h : d.hasDirectory p.text = true)
    (hq : q.Encloses p) :
    d.hasDirectory q.text = true := by
  obtain ⟨place, hlocate, -⟩ := hasDirectory_iff.1 h
  by_cases hsame : q.names = p.names
  · rwa [hq.eq_of_names_eq hsame]
  by_cases hnil : q.names = []
  · -- Without names, `q` is the working directory or a root.
    have hhome : q.root = .relative → d.get? d.home = some .directory := fun hroot =>
      get?_home_of_locate hp (hq.root ▸ hroot) hlocate
    refine hasDirectory_iff.2 ⟨_, locate_of_names_eq_nil hnil hhome, ?_⟩
    split
    · next hroot => exact hhome hroot
    · exact d.get?_root
  · obtain ⟨rest, htext⟩ := hq.text_eq hnil hsame
    have hproper : q.Proper := fun hroot name hname =>
      hp (hq.root ▸ hroot) name (hq.names.subset hname)
    obtain ⟨between, hbetween, hdirectory, -⟩ :=
      exists_locate_of_append hproper.text_ne_empty (htext ▸ hlocate)
    exact hasDirectory_iff.2 ⟨between, hbetween, hdirectory⟩

/-! ## Directories that are made -/

/-- What is at `place` stays, or it is a directory that was made there, at a path that encloses
    `p`. -/
def StaysOrMade (d d' : Disk) (p : Path) (place : Place) : Prop :=
  d'.get? place = d.get? place ∨
    d.get? place = none ∧ d'.get? place = some .directory ∧
      ∃ q : Path, q.Encloses p ∧ d'.locate q.text = .ok place

/-- What is there stays. -/
theorem StaysOrMade.get?_eq_some (h : d.StaysOrMade d' p place) {e : Entry}
    (he : d.get? place = some e) :
    d'.get? place = some e := by
  rcases h with hsame | ⟨hnone, -, -⟩
  · rw [hsame, he]
  · rw [he] at hnone
    cases hnone

/-- Nothing changed from `d` to `d'` but that directories were made at paths that enclose `p`. -/
structure Built (d d' : Disk) (p : Path) : Prop where
  home : d'.home = d.home
  change : ∀ place, d.StaysOrMade d' p place

theorem Built.refl (d : Disk) (p : Path) : d.Built d p :=
  ⟨rfl, fun _ => .inl rfl⟩

theorem Built.keeps (h : d.Built d' p) : d.Keeps d' where
  home := h.home
  directory place := (h.change place).get?_eq_some

/-- Making directories at the same path twice still only makes directories there. -/
theorem Built.trans (h : d.Built d' p) (h' : d'.Built d'' p) : d.Built d'' p where
  home := h'.home.trans h.home
  change place := by
    rcases h.change place with hsame | ⟨hnone, hmade, q, hq, hlocate⟩
    · rcases h'.change place with hsame' | ⟨hnone', hmade', hpath'⟩
      · exact .inl (hsame'.trans hsame)
      · exact .inr ⟨hsame ▸ hnone', hmade', hpath'⟩
    · exact .inr ⟨hnone, h'.keeps.directory place hmade, q, hq, h'.keeps.locate hlocate⟩

theorem Built.of_parent (h : d.Built d' p.parent) : d.Built d' p where
  home := h.home
  change place := (h.change place).imp_right fun ⟨hnone, hmade, q, hq, hlocate⟩ =>
    ⟨hnone, hmade, q, hq.of_parent, hlocate⟩

/-- Making a directory builds it, if it succeeds. -/
theorem makeDirectory_built (h : d.makeDirectory p.text = .ok d') :
    d.Built d' p ∧ d'.hasDirectory p.text = true := by
  obtain ⟨place, hlocate, hnone, rfl⟩ := exists_put_of_makeDirectory h
  have hfree : d.get? place ≠ some .directory := by simp [hnone]
  have hput := get?_put d (ne_root_of_get? hfree) .directory
  have hlocate' := (keeps_put hfree .directory).locate hlocate
  refine ⟨⟨rfl, fun other => ?_⟩, hasDirectory_iff.2 ⟨place, hlocate', by simp [hput]⟩⟩
  by_cases hother : other = place
  · subst hother
    exact .inr ⟨hnone, by simp [hput], p, .refl p, hlocate'⟩
  · exact .inl (by simp [hput, hother])

/-- Making a directory that may be there makes nothing else, and if it succeeds the path leads to a
    directory. -/
theorem orPresent_built {r : Except Error Unit}
    (h : d.orPresent p.text (d.makeDirectory p.text) = (d', r)) :
    d.Built d' p ∧ (r = .ok () → d'.hasDirectory p.text = true) := by
  cases hmake : d.makeDirectory p.text with
  | ok made =>
    simp only [hmake, orPresent, Prod.mk.injEq] at h
    obtain ⟨rfl, rfl⟩ := h
    obtain ⟨hbuilt, hthere⟩ := makeDirectory_built hmake
    exact ⟨hbuilt, fun _ => hthere⟩
  | error fault =>
    simp only [hmake, orPresent] at h
    split at h
    · next hpresent =>
      obtain ⟨rfl, rfl⟩ := Prod.mk.inj h
      exact ⟨.refl d p, fun _ => hpresent.2⟩
    · obtain ⟨rfl, rfl⟩ := Prod.mk.inj h
      exact ⟨.refl d p, fun hr => by cases hr⟩

/-- Whether or not it succeeds, making directories builds some of those that it should; if it
    succeeds, the path leads to a directory. -/
theorem makeDirectories_built {r : Except Error Unit} (h : d.makeDirectories p = (d', r)) :
    d.Built d' p ∧ (r = .ok () → d'.hasDirectory p.text = true) := by
  fun_induction Disk.makeDirectories d p generalizing d' r with
  | case1 p _ _ =>
    obtain ⟨rfl, rfl⟩ := Prod.mk.inj h
    exact ⟨.refl d p, fun hr => by cases hr⟩
  | case2 p _ _ above _ habove ih =>
    obtain ⟨rfl, rfl⟩ := Prod.mk.inj h
    exact ⟨(ih habove).1.of_parent, fun hr => by cases hr⟩
  | case3 p _ _ above habove ih =>
    -- The directories above are there now, and one is left to make.
    obtain ⟨hbuilt, hthere⟩ := orPresent_built h
    exact ⟨(ih habove).1.of_parent.trans hbuilt, hthere⟩
  | case4 p _ => exact orPresent_built h

end Disk

end BundleManifest
