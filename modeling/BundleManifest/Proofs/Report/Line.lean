import BundleManifest.CommandLine.Run
import BundleManifest.Proofs.Report.Escape
import BundleManifest.Report.Usual

/-!
# Status lines

A status line has a mark, a space, and what is shown for its message. With markup the message is
escaped, so the tags in it come to nothing (`render_coloredMark`), and every message has a status line
(`statusText_eq`). But a message is not always shown as it is: names of pictures are replaced, with
markup and without, and with markup some backslashes are lost or added.

A line is rendered with the mark first, then the message, so that the open and the closed tag of the
color come before everything in the message. The console decides what the name of the color means;
since the same name ends what it began, nothing depends on this. Control characters are dropped at the
end, and those of a message are the only ones there can be.

* `messageText`: what is shown for a message;
* `Verbatim`: a message for which this is the message itself (`messageText_eq_self_iff`);
* `statusLine_verbatim_iff`: these are the messages that a status line has as they are.
-/

namespace BundleManifest.Report

open Markup

variable {s : List Char}

/-! ## Control characters -/

/-- A control character. -/
def IsControlCharacter (c : Char) : Prop :=
  c.toNat < 32 ∨ 127 ≤ c.toNat ∧ c.toNat < 160

instance (c : Char) : Decidable (IsControlCharacter c) :=
  inferInstanceAs (Decidable (_ ∨ _))

theorem not_isControlCharacter_of_all (h : (s.all fun c => !decide (IsControlCharacter c)) = true) :
    ∀ c ∈ s, ¬IsControlCharacter c := fun c hc => by
  simpa using List.all_eq_true.1 h c hc

theorem isControlCharacter_of_isControl {c : Char} (h : isControl c) : IsControlCharacter c := by
  simp only [isControl, Bool.or_eq_true, decide_eq_true_iff] at h
  rcases h with (((rfl | rfl) | rfl) | rfl) | rfl <;> exact .inl (by decide)

/-- Control characters have a meaning of their own for the console. -/
theorem IsControlCharacter.isMark {c : Char} (h : IsControlCharacter c) : isMark c := by
  unfold IsControlCharacter at h
  simp only [Report.isMark, Bool.or_eq_true, Bool.and_eq_true, decide_eq_true_eq]
  exact h.elim (fun hlow => .inl (.inr hlow)) .inr

/-- A text without control characters keeps all its characters. -/
theorem filter_of_forall (h : ∀ c ∈ s, ¬IsControlCharacter c) : s.filter (!isControl ·) = s :=
  List.filter_eq_self.2 fun c hc => by
    rw [Bool.not_eq_true']
    by_contra hcontrol
    exact h c hc (isControlCharacter_of_isControl (by simpa using hcontrol))

/-- The status line in which the message is as it is. -/
def verbatimLine (l : Level) (message : String) : String :=
  String.singleton l.mark ++ " " ++ message ++ "\n"

theorem verbatimLine_inj {l : Level} {m n : String} :
    verbatimLine l m = verbatimLine l n ↔ m = n := by
  simp [verbatimLine, ← String.toList_inj]

/-! ## The mark -/

namespace Level

variable (l : Level)

/-- The color of a mark as a tag. -/
def tag : List Char :=
  l.color.toList

/-- A line begins with the tag of its color, the mark, the end of the tag, and a space. -/
theorem coloredMark_append (s : List Char) :
    l.coloredMark ++ s = tagText 0 l.tag ++ l.mark :: (tagText 0 ('/' :: l.tag) ++ ' ' :: s) := by
  cases l <;> rfl

theorem isTag_tag : IsTag l.tag := by
  cases l <;> exact ⟨⟨_, _, rfl, rfl⟩, by decide, by decide⟩

theorem isTag_slash_tag : IsTag ('/' :: l.tag) := by
  cases l <;> exact ⟨⟨_, _, rfl, rfl⟩, by decide, by decide⟩

theorem afterTag_tag [Console] : afterTag [] l.tag = .ok [⟨Console.styleName l.tag, []⟩] := by
  cases l <;> rfl

/-- The end of the tag of a color ends it, whatever the console makes of its name. -/
theorem afterTag_slash_tag [Console] :
    afterTag [⟨Console.styleName l.tag, []⟩] ('/' :: l.tag) = .ok [] := by
  have hstrip : Text.strip l.tag = l.tag := by cases l <;> rfl
  have hbody : l.tag.takeWhile (· ≠ '=') = l.tag := by cases l <;> rfl
  rw [afterTag, List.takeWhile_cons_of_pos (by decide), hbody]
  simp [hstrip, ended, OpenTag.isReadable]

end Level

section

variable [Console]

/-- The text of a message behind its mark. -/
def messageText (rich : Bool) (s : List Char) : List Char :=
  if rich then (Markup.cut (s ++ closing s)).strips.flatMap shown else Emoji.replace s

/-- With markup, what is behind the mark is shown as it is shown alone. -/
theorem textOf_escape (s : List Char) :
    textOf [] (pieces (' ' :: escape s)) = .ok (' ' :: messageText true s) := by
  rw [pieces_eq, cut_cons (escapedTag?_of_ne (by decide) (by decide)), escape_eq, cut_escapeTags]
  generalize hc : Markup.cut (s ++ closing s) = c
  have hspace := Cut.pieces_escaped ⟨' ' :: c.run, c.tagged⟩
  rw [messageText, if_pos rfl, hc]
  refine (congrArg (textOf []) hspace).trans ?_
  rw [textOf_textPieces, Cut.strips, Cut.strips, List.flatMap_cons, List.flatMap_cons,
    shown_cons (by decide) (by decide)]
  rfl

/-- A rich line is shown as its mark and the text of its message. -/
theorem render_coloredMark (l : Level) (s : List Char) :
    render (l.coloredMark ++ escape s) = .ok (l.mark :: ' ' :: messageText true s) := by
  have hmark (s : List Char) : escapedTag? (l.mark :: s) = none := by
    cases l <;> exact escapedTag?_of_ne (by decide) (by decide)
  have hbracket : (l.coloredMark ++ escape s).contains '[' = true := by
    rw [Level.coloredMark_append]
    simp [tagText]
  rw [render, if_pos hbracket, Level.coloredMark_append, pieces_tag l.isTag_tag,
    textOf_tag l.afterTag_tag, pieces_char_tag l.isTag_slash_tag (hmark _), textOf,
    textOf_tag l.afterTag_slash_tag, textOf_escape]
  have hshown : shown [l.mark] = [l.mark] := by
    cases l <;> exact (shown_cons (by decide) (by decide) []).trans (by rw [shown_nil])
  exact congrArg (fun s => Except.ok (s ++ ' ' :: messageText true _)) hshown

/-- The text of a status line, for every message. -/
theorem statusText_eq (rich : Bool) (l : Level) (s : List Char) :
    statusText rich l s = .ok ((l.mark :: ' ' :: messageText rich s).filter (!isControl ·)) := by
  cases rich with
  | true =>
    rw [statusText, plain, if_pos rfl, if_pos rfl, render_coloredMark]
    rfl
  | false =>
    have hmark : ':' ∉ [l.mark, ' '] := by cases l <;> decide
    exact congrArg (fun s => Except.ok (List.filter (!isControl ·) s)) (Emoji.replace_append hmark s)

/-- No message keeps a status line from being written. -/
theorem exists_statusLine (rich : Bool) (l : Level) (message : String) :
    ∃ lines, statusLine rich l message = .ok lines :=
  ⟨_, by rw [statusLine, statusText_eq]; rfl⟩

/-! ## Lines -/

theorem withoutTabs_of_notMem (h : '\t' ∉ s) (cell : Nat) : withoutTabs cell s = s := by
  induction s generalizing cell with
  | nil => rfl
  | cons c s ih =>
    rw [List.mem_cons, not_or] at h
    rw [withoutTabs, if_neg (Ne.symm h.1), ih h.2]

theorem lines_of_notMem (hend : '\n' ∉ s) (htab : '\t' ∉ s) : lines s = [s] := by
  rw [lines, Text.pieces_of_notMem hend, List.map_singleton, withoutTabs_of_notMem htab]

/-- The first character of a text, unless it is an end of a line or a tab, is the first one of its
    lines. -/
theorem exists_lines_cons {c : Char} (hend : c ≠ '\n') (htab : c ≠ '\t') (s : List Char) :
    ∃ first rest, lines (c :: s) = (c :: first) :: rest := by
  obtain ⟨piece, others, hpieces⟩ := List.exists_cons_of_ne_nil (Text.pieces_ne_nil '\n' s)
  refine ⟨withoutTabs (0 + Console.charWidth c) piece, others.map (withoutTabs 0), ?_⟩
  rw [lines, Text.pieces, if_neg hend, hpieces]
  dsimp only
  rw [List.map_cons, withoutTabs, if_neg htab]

/-- A status line begins with its mark. -/
theorem head?_statusLine {rich : Bool} {l : Level} {message line : String}
    (h : statusLine rich l message = .ok line) : line.toList.head? = some l.mark := by
  have hfilter (s : List Char) :
      (l.mark :: s).filter (!isControl ·) = l.mark :: s.filter (!isControl ·) := by
    cases l <;> rfl
  have hend : l.mark ≠ '\n' := by cases l <;> decide
  have htab : l.mark ≠ '\t' := by cases l <;> decide
  obtain ⟨first, rest, hlines⟩ :=
    exists_lines_cons hend htab ((' ' :: messageText rich message.toList).filter (!isControl ·))
  rw [statusLine, statusText_eq, hfilter] at h
  obtain rfl := Except.ok.inj h
  rw [String.toList_ofList, hlines]
  rfl

/-- A text without control characters is on one line. -/
theorem lines_of_forall (h : ∀ c ∈ s, ¬IsControlCharacter c) : lines s = [s] :=
  lines_of_notMem (fun hc => h _ hc (by decide)) (fun hc => h _ hc (by decide))

/-- A control character is not shown unless it is in the message. -/
theorem notMem_messageText {c : Char} (hc : IsControlCharacter c) (h : c ∉ s) (rich : Bool) :
    c ∉ messageText rich s := by
  have hcolon : c ≠ ':' := by
    rintro rfl
    exact absurd hc (by decide)
  have hslash : c ≠ '\\' := by
    rintro rfl
    exact absurd hc (by decide)
  cases rich with
  | false => exact Emoji.notMem_replace hc.isMark hcolon h
  | true =>
    intro hmem
    obtain ⟨strip, hstrip, hshown⟩ := List.mem_flatMap.1 hmem
    have htext : c ∉ (Markup.cut (s ++ closing s)).text := by
      simp [text_cut, h, notMem_closing hslash]
    refine Emoji.notMem_replace hc.isMark hcolon ?_ hshown
    rw [← List.count_eq_zero, count_unescaped hslash, List.count_eq_zero]
    exact fun hin => htext (List.mem_flatten.2 ⟨strip, hstrip, hin⟩)

/-- A message whose characters are all shown as they are. -/
def Verbatim (rich : Bool) (s : List Char) : Prop :=
  if rich then Steady s else Emoji.Free s

/-- A message is shown as it is exactly if it is verbatim. -/
theorem messageText_eq_self_iff (rich : Bool) (s : List Char) :
    messageText rich s = s ↔ Verbatim rich s := by
  cases rich with
  | false => exact Emoji.replace_eq_self_iff
  | true => exact flatMap_shown_closing_iff s

/-- A message without control characters is shown on one line. -/
theorem statusLine_eq (rich : Bool) (l : Level) {message : String}
    (h : ∀ c ∈ message.toList, ¬IsControlCharacter c) :
    statusLine rich l message =
      .ok (verbatimLine l (String.ofList (messageText rich message.toList))) := by
  have hmark : ¬IsControlCharacter l.mark := by cases l <;> decide
  have hmessage : ∀ c ∈ messageText rich message.toList, ¬IsControlCharacter c :=
    fun c hin hc => notMem_messageText hc (fun hin => h c hin hc) rich hin
  have hplain : ∀ c ∈ l.mark :: ' ' :: messageText rich message.toList, ¬IsControlCharacter c :=
    List.forall_mem_cons.2 ⟨hmark, List.forall_mem_cons.2 ⟨by decide, hmessage⟩⟩
  rw [statusLine, statusText_eq, filter_of_forall hplain]
  refine congrArg Except.ok (String.toList_inj.1 ?_)
  dsimp only
  rw [lines_of_forall hplain]
  simp [unlines, verbatimLine]

/-- A status line shows a message without control characters as it is exactly if the message is
    verbatim, and the line of a failed outcome is the status line for its error. -/
theorem statusLine_verbatim_iff (rich : Bool) (l : Level) (message : String)
    (h : ∀ c ∈ message.toList, ¬IsControlCharacter c) :
    (∃ line, statusLine rich l message = .ok line ∧
        (line = verbatimLine l message ↔ Verbatim rich message.toList)) ∧
      ∀ (a : CommandLine.Arguments) (o : Outcome) (e : String), a.noRich = !rich → o.error = some e →
        message = o.input ++ ": " ++ e →
          CommandLine.reportLines a o = statusLine rich .error message := by
  refine ⟨⟨_, statusLine_eq rich l h, ?_⟩, ?_⟩
  · rw [verbatimLine_inj, ← messageText_eq_self_iff, ← String.toList_inj, String.toList_ofList]
  · rintro a o e hrich herror rfl
    have hlevel : CommandLine.level o = .error := by simp [CommandLine.level, Outcome.success, herror]
    have hline : o.line = o.input ++ ": " ++ e := by rw [Outcome.line, herror]
    rw [CommandLine.reportLines, hlevel, hline, hrich, Bool.not_not]
    simp

end

/-! ## Positions -/

open scoped Usual in
/-- The seventh line of a script has no picture. -/
theorem statusLine_verbatim_of_position :
    (∀ c ∈ "app.js:7:5: Missing ;".toList, ¬IsControlCharacter c) ∧
      ∃ line, statusLine true .error "app.js:7:5: Missing ;" = .ok line ∧
        line = verbatimLine .error "app.js:7:5: Missing ;" := by
  have hplain : ∀ c ∈ "app.js:7:5: Missing ;".toList, ¬IsControlCharacter c :=
    not_isControlCharacter_of_all rfl
  have hseven : Emoji.picture? ['7'] = none := by decide +kernel
  have hfree : Emoji.Free "app.js:7:5: Missing ;".toList := by
    have htext : "app.js:7:5: Missing ;".toList =
        "app.js".toList ++ ':' :: (['7'] ++ ':' :: "5: Missing ;".toList) := rfl
    rw [htext, Emoji.free_append (by decide), Emoji.free_name (by decide) rfl hseven]
    exact Emoji.free_of_count_le_one (by decide)
  obtain ⟨⟨line, hline, hiff⟩, -⟩ := statusLine_verbatim_iff true .error _ hplain
  exact ⟨hplain, line, hline, hiff.2 ((steady_iff_of_notMem (by decide) (by decide)).2 hfree)⟩

open scoped Usual in
/-- The hundredth line has one. -/
theorem statusLine_not_verbatim :
    (∀ c ∈ "app.js:100:5: Missing ;".toList, ¬IsControlCharacter c) ∧
      statusLine true .error "app.js:100:5: Missing ;" ≠
        .ok (verbatimLine .error "app.js:100:5: Missing ;") := by
  have hplain : ∀ c ∈ "app.js:100:5: Missing ;".toList, ¬IsControlCharacter c :=
    not_isControlCharacter_of_all rfl
  have htext : "app.js:100:5: Missing ;".toList =
      "app.js".toList ++ ':' :: ("100".toList ++ ':' :: "5: Missing ;".toList) := rfl
  refine ⟨hplain, fun h => ?_⟩
  rw [statusLine_eq true .error hplain, Except.ok.injEq, verbatimLine_inj, ← String.toList_inj,
    String.toList_ofList, messageText_eq_self_iff] at h
  have hfree : Emoji.Free _ := (steady_iff_of_notMem (by decide) (by decide)).1 h
  rw [htext] at hfree
  exact Emoji.not_free_of_picture (by decide) rfl (by decide +kernel) _ hfree

end BundleManifest.Report
