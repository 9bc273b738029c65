import BundleManifest.Report.Console
import BundleManifest.Report.EmojiTable
import BundleManifest.Report.Width
import BundleManifest.Text.Blank
import BundleManifest.Text.Pieces

/-!
# The usual console

A console of eighty cells, with the pictures of a table. The case of letters does not matter for the
name of a picture. The short names of attributes are other names for styles.
-/

namespace BundleManifest.Report

namespace Emoji

/-- The picture with a name in lower case. -/
def ofName? (name : List Char) : Option (List Char) :=
  match name with
  | [] => none
  | first :: _ => search (Text.pieces ' ' (group first).toList)
where
  /-- Finds the picture behind its name. -/
  search : List (List Char) → Option (List Char)
    | n :: picture :: rest => if n = name then some picture else search rest
    | _ => none

/-- A letter in lower case. Of the letters outside ASCII these are all with a form that is in a
    name. -/
def lowerChar (c : Char) : Char :=
  let n := c.toNat
  if (0x41 ≤ n && n ≤ 0x5A) || (0xC0 ≤ n && n ≤ 0xDE && n ≠ 0xD7) then Char.ofNat (n + 0x20)
  else if n = 0x212A then 'k'
  else if n = 0x212B then '\u00E5'
  else c

/-- The picture with a name, whatever the case of its letters is. -/
def named? (name : List Char) : Option (List Char) :=
  ofName? (name.map lowerChar)

theorem all_ofList (l : List Char) (p : Char → Bool) : (String.ofList l).toList.all p = l.all p := by
  rw [String.toList_ofList]

theorem all_append {s t : String} {p : Char → Bool} {a b : Bool} (hs : s.toList.all p = a)
    (ht : t.toList.all p = b) : (s ++ t).toList.all p = (a && b) := by
  rw [String.toList_append, List.all_append, hs, ht]

set_option maxRecDepth 8000 in
/-- There are no marks in the table. -/
theorem all_group (first : Char) : (group first).toList.all (!isMark ·) = true := by
  unfold group
  split
  all_goals
    delta namesA namesB namesC namesD namesE namesF namesG namesH namesI namesJ namesK namesL namesM
      namesN namesO namesP namesQ namesR namesS namesT namesU namesV namesW namesX namesY namesZ
      others
    -- The literals are made lists first: to compute with them as texts takes too long.
    apply Eq.trans
    · repeat' with_reducible apply all_append
      all_goals with_reducible exact all_ofList _ _
    · decide +kernel

variable {mark : Char} {name picture : List Char}

/-- The table of names is free of marks, whatever the first letter is. -/
theorem notMem_group (hmark : isMark mark) (first : Char) : mark ∉ (group first).toList := by
  intro hc
  have := List.all_eq_true.1 (all_group first) mark hc
  rw [hmark] at this
  cases this

/-- A mark has no other case. -/
theorem lowerChar_of_isMark (hmark : isMark mark) : lowerChar mark = mark := by
  have hbound : mark.toNat < 0x41 ∨ 0x5A < mark.toNat ∧ mark.toNat < 0xC0 := by
    simp only [isMark, Bool.or_eq_true, Bool.and_eq_true, decide_eq_true_eq] at hmark
    rcases hmark with (((rfl | rfl) | rfl) | hlow) | hhigh
    · exact .inl (by decide)
    · exact .inr (by decide)
    · exact .inr (by decide)
    · exact .inl (by omega)
    · exact .inr (by omega)
  have hcase : ((0x41 ≤ mark.toNat && mark.toNat ≤ 0x5A) ||
      (0xC0 ≤ mark.toNat && mark.toNat ≤ 0xDE && mark.toNat ≠ 0xD7)) = false := by
    simp only [Bool.or_eq_false_iff, Bool.and_eq_false_iff, decide_eq_false_iff_not]
    omega
  simp only [lowerChar, hcase]
  rw [if_neg (by decide), if_neg (by omega), if_neg (by omega)]

/-- What the search answers stands in the group beside the name. -/
theorem mem_of_search {l : List (List Char)} (h : ofName?.search name l = some picture) :
    name ∈ l ∧ picture ∈ l := by
  fun_induction ofName?.search name l with
  | case1 picture rest => simp_all
  | case2 n p rest hne ih =>
    obtain ⟨hname, hpicture⟩ := ih h
    exact ⟨List.mem_cons_of_mem _ (List.mem_cons_of_mem _ hname),
      List.mem_cons_of_mem _ (List.mem_cons_of_mem _ hpicture)⟩
  | case3 => simp at h

/-- Neither a name of the table nor its picture has a mark in it. -/
theorem notMem_of_ofName? (hmark : isMark mark) (h : ofName? name = some picture) :
    mark ∉ name ∧ mark ∉ picture := by
  have hspace : mark ≠ ' ' := by
    rintro rfl
    cases hmark
  unfold ofName? at h
  split at h
  · cases h
  · next first rest =>
    obtain ⟨hname, hpicture⟩ := mem_of_search h
    exact ⟨fun hc => notMem_group hmark first ((Text.exists_mem_pieces_iff hspace).1 ⟨_, hname, hc⟩),
      fun hc => notMem_group hmark first ((Text.exists_mem_pieces_iff hspace).1 ⟨_, hpicture, hc⟩)⟩

/-- A name in other letters has no mark either, as no letter is lowered to one. -/
theorem notMem_of_named? (hmark : isMark mark) (h : named? name = some picture) :
    mark ∉ name ∧ mark ∉ picture := by
  obtain ⟨hname, hpicture⟩ := notMem_of_ofName? hmark h
  exact ⟨fun hc => hname (List.mem_map.2 ⟨mark, hc, lowerChar_of_isMark hmark⟩), hpicture⟩

end Emoji

namespace Markup

/-- The short names of attributes. -/
def shortNames : List (String × String) :=
  [("b", "bold"), ("d", "dim"), ("i", "italic"), ("u", "underline"), ("uu", "underline2"),
    ("r", "reverse"), ("c", "conceal"), ("s", "strike"), ("o", "overline")]

/-- The name of a style: in lower case, and not short. -/
def usualName (s : List Char) : String :=
  let name := String.ofList ((Text.strip s).map Emoji.lowerChar)
  (shortNames.lookup name).getD name

/-- Whether an action is a name, perhaps with something in parentheses behind it. -/
def isAction (s : List Char) : Bool :=
  match (Text.strip s).dropWhile fun c => c.isAlphanum || c = '_' || c = '.' with
  | [] => true
  | c :: rest => c = '(' && rest.getLast? = some ')'

end Markup

end BundleManifest.Report

namespace BundleManifest.Usual

open Report

/-- The usual console. -/
scoped instance console : Console where
  width := 80
  charWidth := usualWidth
  picture? := Emoji.named?
  styleName := Markup.usualName
  readsAction := Markup.isAction
  charWidth_space := rfl
  notMem_of_picture? h hmark := Emoji.notMem_of_named? hmark h

end BundleManifest.Usual
