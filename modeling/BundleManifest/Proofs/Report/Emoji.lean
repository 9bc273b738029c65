import BundleManifest.Report.Emoji
import BundleManifest.Proofs.Text.Pieces
import Mathlib.Data.List.Basic

/-!
# Names of pictures in a text

A text has parts: its characters, and the names between two colons (`parts`). A name is replaced by
the picture with that name if there is one, and everything else stays. Neither a picture nor its name
has a colon, a bracket, a backslash or a control character in it (`notMem_of_picture?`). So a picture
takes the place of two colons, a text is kept exactly if none of its names is that of a picture
(`replace_eq_self_iff`), and other characters of this kind are neither lost nor added
(`count_replace`).

A name ends at the next colon, which then begins no other name, so that the parts are found from the
left. Which pictures there are does not matter: the laws of `Console` are all that is used of them.
-/

namespace BundleManifest.Report.Emoji

variable {mark : Char} {name picture s t : List Char}

theorem isMark_colon : isMark ':' := rfl

/-! ## Parts of a text -/

/-- A part of a text. -/
inductive Part where
  | char (c : Char)
  /-- The name between two colons. -/
  | named (s : List Char)

namespace Part

/-- A part as it is in the text. -/
def text : Part → List Char
  | char c => [c]
  | named s => ':' :: s ++ [':']

end Part

/-- The parts of a text, from the left. -/
def parts : List Char → List Part
  | [] => []
  | c :: rest =>
    if c = ':' then
      let name := rest.takeWhile (· ≠ ':')
      if name.length < rest.length && !name.any Text.isBlank then
        .named name :: parts (rest.drop (name.length + 1))
      else .char c :: parts rest
    else .char c :: parts rest
  termination_by s => s.length
  decreasing_by all_goals simp only [List.length_drop, List.length_cons]; omega

/-- Behind the characters of a class is one that is not of the class, unless the text ends. -/
theorem eq_takeWhile_append {p : Char → Bool} (h : (s.takeWhile p).length < s.length) :
    ∃ c, p c = false ∧ s = s.takeWhile p ++ c :: s.drop ((s.takeWhile p).length + 1) := by
  induction s with
  | nil => simp at h
  | cons c s ih =>
    by_cases hc : p c
    · rw [List.takeWhile_cons_of_pos hc] at h ⊢
      obtain ⟨d, hd, heq⟩ := ih (Nat.lt_of_succ_lt_succ h)
      exact ⟨d, hd, congrArg (c :: ·) heq⟩
    · rw [List.takeWhile_cons_of_neg hc]
      exact ⟨c, by simpa using hc, rfl⟩

/-- The parts of a text are the whole text. -/
theorem flatMap_text_parts (s : List Char) : (parts s).flatMap Part.text = s := by
  fun_induction parts s with
  | case1 => rfl
  | case2 rest name hname ih =>
    rw [Bool.and_eq_true, decide_eq_true_iff] at hname
    obtain ⟨c, hc, hrest⟩ := eq_takeWhile_append hname.1
    obtain rfl : c = ':' := by simpa using hc
    have hshown : name ++ ':' :: rest.drop (name.length + 1) = rest := hrest.symm
    simpa [Part.text, ih] using hshown
  | case3 rest name hname ih => rw [List.flatMap_cons, ih]; rfl
  | case4 c rest hc ih => rw [List.flatMap_cons, ih]; rfl

/-- Nothing before the first colon belongs to the name of a picture. -/
theorem parts_append (h : ':' ∉ s) (t : List Char) : parts (s ++ t) = s.map .char ++ parts t := by
  induction s with
  | nil => rfl
  | cons c s ih =>
    rw [List.mem_cons, not_or] at h
    rw [List.cons_append, parts, if_neg (Ne.symm h.1), ih h.2]
    rfl

/-- The first colon begins a name if there is no white space before the next colon. -/
theorem parts_name (hcolon : ':' ∉ name) (hblank : name.any Text.isBlank = false) (t : List Char) :
    parts (':' :: (name ++ ':' :: t)) = .named name :: parts t := by
  have htake : (name ++ ':' :: t).takeWhile (· ≠ ':') = name := by
    rw [List.takeWhile_append_of_pos fun c hc => by simpa using ne_of_mem_of_not_mem hc hcolon]
    simp
  rw [parts, if_pos rfl]
  simp only [htake, hblank]
  simp

/-! ## Names of pictures -/

/-- The words for the ways to show a picture, and the characters that ask for them, are no marks. -/
theorem notMem_of_mem_variants (hmark : isMark mark) {variant : List Char × Char}
    (h : variant ∈ variants) :
    mark ∉ variant.1 ∧ mark ≠ variant.2 := by
  have hnone {l : List Char} (hl : l.all (!isMark ·) = true) : mark ∉ l := by
    intro hc
    have := List.all_eq_true.1 hl mark hc
    rw [hmark] at this
    cases this
  have hword : variant.1.all (!isMark ·) = true := by rcases List.mem_pair.1 h with rfl | rfl <;> rfl
  have hvariant : [variant.2].all (!isMark ·) = true := by
    rcases List.mem_pair.1 h with rfl | rfl <;> rfl
  exact ⟨hnone hword, fun h => hnone hvariant (List.mem_singleton.2 h)⟩

variable [Console]

/-- Neither a picture nor the text for it has a mark in it. -/
theorem notMem_of_picture? (hmark : isMark mark) (h : picture? name = some picture) :
    mark ∉ name ∧ mark ∉ picture := by
  unfold picture? at h
  split at h
  · next word variant hfind =>
    obtain ⟨p, hp, rfl⟩ := Option.map_eq_some_iff.1 h
    have hend : word.isSuffixOf name = true := by simpa only using List.find?_some hfind
    obtain ⟨front, rfl⟩ := List.isSuffixOf_iff_suffix.1 hend
    rw [List.length_append, Nat.add_sub_cancel, List.take_left] at hp
    obtain ⟨hname, hpicture⟩ := Console.notMem_of_picture? hp hmark
    obtain ⟨hword, hvariant⟩ := notMem_of_mem_variants hmark (List.mem_of_find?_eq_some hfind)
    simp only [List.mem_append, List.mem_singleton, not_or]
    exact ⟨⟨hname, hword⟩, hpicture, hvariant⟩
  · exact Console.notMem_of_picture? h hmark

namespace Part

/-- What is shown for a part. -/
def shown : Part → List Char
  | char c => [c]
  | named s => (picture? s).getD (':' :: s ++ [':'])

/-- Whether a part is the name of a picture. -/
def isPicture : Part → Bool
  | char _ => false
  | named s => (picture? s).isSome

/-- A picture takes the place of two colons. -/
theorem count_colon_shown (p : Part) :
    p.shown.count ':' + (if p.isPicture then 2 else 0) = p.text.count ':' := by
  cases p with
  | char c => rfl
  | named s =>
    cases hpicture : picture? s with
    | none => simp [shown, isPicture, text, hpicture]
    | some picture =>
      obtain ⟨hname, hshown⟩ := notMem_of_picture? isMark_colon hpicture
      simp [shown, isPicture, text, hpicture, List.count_eq_zero.2 hname, List.count_eq_zero.2 hshown]

/-- It changes nothing about other marks. -/
theorem count_shown (hmark : isMark mark) (hcolon : mark ≠ ':') (p : Part) :
    p.shown.count mark = p.text.count mark := by
  cases p with
  | char c => rfl
  | named s =>
    simp only [shown, text]
    cases hpicture : picture? s with
    | none => rfl
    | some picture =>
      obtain ⟨hname, hshown⟩ := notMem_of_picture? hmark hpicture
      simp [List.count_eq_zero.2 hname, List.count_eq_zero.2 hshown, hcolon.symm]

theorem shown_of_not_isPicture {p : Part} (h : p.isPicture = false) : p.shown = p.text := by
  cases p with
  | char c => rfl
  | named s =>
    rw [isPicture, Option.isSome_eq_false_iff, Option.isNone_iff_eq_none] at h
    rw [shown, text, h, Option.getD_none]

end Part

/-- Replacing the names of pictures is showing the parts one after the other. -/
theorem replace_eq_flatMap (s : List Char) : replace s = (parts s).flatMap Part.shown := by
  fun_induction replace s with
  | case1 => rw [parts]; rfl
  | case2 rest name hname ih => rw [parts, if_pos rfl, if_pos hname, List.flatMap_cons, ← ih]; rfl
  | case3 rest name hname ih => rw [parts, if_pos rfl, if_neg hname, List.flatMap_cons, ← ih]; rfl
  | case4 c rest hc ih => rw [parts, if_neg hc, List.flatMap_cons, ← ih]; rfl

/-- A text in which no name is that of a picture. -/
def Free (s : List Char) : Prop :=
  ∀ p ∈ parts s, p.isPicture = false

/-- Every picture takes the two colons around its name away, and nothing else does. -/
theorem count_colon_flatMap (l : List Part) :
    (l.flatMap Part.shown).count ':' + 2 * l.countP Part.isPicture =
      (l.flatMap Part.text).count ':' := by
  induction l with
  | nil => rfl
  | cons p l ih =>
    have hp := Part.count_colon_shown p
    rw [List.flatMap_cons, List.flatMap_cons, List.count_append, List.count_append, List.countP_cons]
    split at hp <;> simp_all <;> omega

/-- The colons of a text are kept, but for two for each picture. -/
theorem count_colon_replace (s : List Char) :
    (replace s).count ':' + 2 * (parts s).countP Part.isPicture = s.count ':' := by
  have hcount := count_colon_flatMap (parts s)
  rwa [← replace_eq_flatMap, flatMap_text_parts] at hcount

theorem count_colon_replace_le (s : List Char) : (replace s).count ':' ≤ s.count ':' := by
  rw [← count_colon_replace s]
  exact Nat.le_add_right _ _

/-- Where no colon is lost there was no picture. -/
theorem free_of_count_colon (h : s.count ':' ≤ (replace s).count ':') : Free s := by
  have hcount := count_colon_replace s
  have hzero : (parts s).countP Part.isPicture = 0 := by omega
  intro p hp
  simpa using List.countP_eq_zero.1 hzero p hp

/-- Pictures are all that is changed in a text. -/
theorem replace_eq_self_iff : replace s = s ↔ Free s := by
  constructor
  · intro h
    exact free_of_count_colon (Nat.le_of_eq (congrArg (List.count ':') h.symm))
  · intro h
    conv_rhs => rw [← flatMap_text_parts s]
    rw [replace_eq_flatMap]
    exact List.flatMap_congr fun p hp => Part.shown_of_not_isPicture (h p hp)

theorem replace_append (h : ':' ∉ s) (t : List Char) : replace (s ++ t) = s ++ replace t := by
  rw [replace_eq_flatMap, replace_eq_flatMap, parts_append h, List.flatMap_append, List.flatMap_map]
  exact congrArg (· ++ _) (List.flatMap_singleton' s)

/-- What stands before the first colon does not matter to whether names are replaced. -/
theorem free_append (h : ':' ∉ s) (t : List Char) : Free (s ++ t) ↔ Free t := by
  rw [← replace_eq_self_iff, ← replace_eq_self_iff, replace_append h, List.append_right_inj]

/-- A name is between two colons. -/
theorem free_of_count_le_one (h : s.count ':' ≤ 1) : Free s := by
  have hcount := count_colon_replace s
  exact free_of_count_colon (by omega)

/-- A name of no picture is passed over together with the colons around it. -/
theorem free_name (hcolon : ':' ∉ name) (hblank : name.any Text.isBlank = false)
    (hnone : picture? name = none) (t : List Char) : Free (':' :: (name ++ ':' :: t)) ↔ Free t := by
  rw [Free, parts_name hcolon hblank, List.forall_mem_cons, Part.isPicture, hnone]
  exact and_iff_right rfl

/-- The first name in a text, if there is a picture for it. -/
theorem not_free_of_picture (hs : ':' ∉ s) (hblank : name.any Text.isBlank = false)
    (hpicture : (picture? name).isSome) (t : List Char) : ¬Free (s ++ ':' :: (name ++ ':' :: t)) := by
  obtain ⟨picture, hsome⟩ := Option.isSome_iff_exists.1 hpicture
  have hname := (notMem_of_picture? isMark_colon hsome).1
  intro h
  have := h (.named name) (by rw [parts_append hs, parts_name hname hblank]; simp)
  rw [Part.isPicture, hpicture] at this
  exact Bool.noConfusion this

/-- Marks other than the colon are kept. -/
theorem count_replace (hmark : isMark mark) (hcolon : mark ≠ ':') :
    (replace s).count mark = s.count mark := by
  conv_rhs => rw [← flatMap_text_parts s]
  rw [replace_eq_flatMap, List.count_flatMap, List.count_flatMap]
  exact congrArg List.sum (List.map_congr_left fun p _ => Part.count_shown hmark hcolon p)

/-- A mark other than the colon is in no picture, so that it comes in with none. -/
theorem notMem_replace (hmark : isMark mark) (hcolon : mark ≠ ':') (h : mark ∉ s) :
    mark ∉ replace s := by
  rw [← List.count_eq_zero, count_replace hmark hcolon, List.count_eq_zero]
  exact h

end BundleManifest.Report.Emoji
