import BundleManifest.Proofs.Script.Grammar.Program
import BundleManifest.Proofs.Text.LineFeeds
import BundleManifest.Proofs.Walk.Content
import BundleManifest.Unpacker

/-!
# Bundles in files

The text of a bundle that is read from a file has a line feed for every line end of the file
(`Text.withLineFeeds`), and the records are those of this text. It is the text of the file if that has
no carriage returns.

In any case each record belongs to a part of the file, whose line ends are its own (`Node.ComesFrom`,
`Walker.exists_raw`). The size of the record counts a line end of two characters as one byte, and the
content has line feeds for its line ends, so that they are those of the file exactly if the part has
no such line end, or no carriage return.
-/

namespace BundleManifest

open Script

namespace Script.Node

/-- A node over a text with line feeds comes from a part of the text that has its own line ends. -/
def ComesFrom (text : List Char) (n : Node) (raw : List Char) : Prop :=
  ∃ before after, text = before ++ raw ++ after ∧
    Text.withLineFeeds text =
      Text.withLineFeeds before ++ Text.withLineFeeds raw ++ Text.withLineFeeds after ∧
    n.start = (Utf8.encode (Text.withLineFeeds before)).length ∧
    n.stop = (Utf8.encode (Text.withLineFeeds before ++ Text.withLineFeeds raw)).length

/-- A node that stands for some part of the text with line feeds comes from some part of the text. -/
theorem Covers.exists_comesFrom {text part : List Char} {n : Node}
    (h : n.Covers (Text.withLineFeeds text) part) :
    ∃ raw, n.ComesFrom text raw ∧ Text.withLineFeeds raw = part := by
  obtain ⟨before, after, htext, hstart, hstop⟩ := h
  obtain ⟨front, back, rfl, hfront, rfl⟩ := Text.exists_of_withLineFeeds_eq_append htext
  obtain ⟨first, raw, rfl, rfl, rfl⟩ := Text.exists_of_withLineFeeds_eq_append hfront
  exact ⟨raw, ⟨first, back, rfl, htext, hstart, hstop⟩, rfl⟩

end Script.Node

namespace Walker

variable {w : Walker} {b : Bundle} {call : Node} {record : Record}

/-- A record has the body of its call as its content, or none. -/
theorem content_eq_or (he : (call, record) ∈ w.entries b) : record.content = "" ∨
    ∃ body, (call.argumentNodes[1]?).bind Node.block? = some body ∧
      record.content = body.text b.source := by
  obtain ⟨-, hrecord⟩ := of_mem_entries he
  obtain ⟨r, hclassify, hbuild⟩ := Option.bind_eq_some_iff.1 hrecord
  cases hcontent : w.extraction.includeContent with
  | false => exact .inl (Extraction.content_of_build_of_false hbuild hcontent)
  | true =>
    by_cases hkind : record.kind = .define
    · rw [content_of_mem_entries hcontent he hkind]
      cases hbody : (call.argumentNodes[1]?).bind Node.block? with
      | none => exact .inl rfl
      | some body => exact .inr ⟨body, rfl, rfl⟩
    · exact .inl ((Extraction.shape_of_build hbuild).2.1 hkind)

/-- In a bundle with line feeds for the line ends of a text, every record belongs to a part of the
    text. Its size is less than the bytes of this part by the number of line ends of two characters in
    it, and its content is a part of this part, with line feeds for its line ends. -/
theorem exists_raw {text : List Char}
    (hb : Bundle.ofText (String.ofList (Text.withLineFeeds text)) = .ok b)
    (he : (call, record) ∈ w.entries b) :
    ∃ raw, call.ComesFrom text raw ∧
      record.size + Text.doubleEnds raw = (Utf8.encode raw).length ∧
      ∃ body, body <:+: raw ∧ record.content.toList = Text.withLineFeeds body := by
  obtain ⟨hsource, hnested, -, hboundaries⟩ := Bundle.spans_of_ofText hb
  rw [String.toList_ofList] at hboundaries
  have hcovers n (hn : n ∈ b.root.preorder) : ∃ part, n.Covers (Text.withLineFeeds text) part :=
    Node.exists_covers (hboundaries n hn).1 (hboundaries n hn).2
    (hnested.of_mem_preorder hn).start_le_stop
  have hcall : call ∈ b.root.preorder := by
    have hvisit := (of_mem_entries he).1
    rwa [Node.visit_eq, Node.preorderAll, Node.preorderAll, List.append_nil] at hvisit
  obtain ⟨part, hpart⟩ := hcovers call hcall
  obtain ⟨raw, hraw, rfl⟩ := hpart.exists_comesFrom
  refine ⟨raw, hraw, ?_, ?_⟩
  · obtain ⟨before, after, -, -, hstart, hstop⟩ := hraw
    have hlength := Text.length_encode_withLineFeeds raw
    rw [Utf8.encode_append, List.length_append] at hstop
    have hsize : record.size = (call.span : Int) := size_eq_span he
    rw [hsize, Node.span]
    omega
  · rcases content_eq_or he with hempty | ⟨body, hbody, hcontent⟩
    · exact ⟨[], List.nil_infix, by rw [hempty]; rfl⟩
    · obtain ⟨hmem, hstart, hstop⟩ := block_inside hnested.partsInside hcall hbody
      obtain ⟨inner, hinner⟩ := hcovers body hmem
      obtain ⟨s, t, heq⟩ := hpart.infix hinner hstart hstop
      -- The body comes from a part of what the call comes from.
      obtain ⟨front, back, rfl, hfront, -⟩ := Text.exists_of_withLineFeeds_eq_append heq.symm
      obtain ⟨first, body', rfl, -, rfl⟩ := Text.exists_of_withLineFeeds_eq_append hfront
      refine ⟨body', ⟨first, back, rfl⟩, ?_⟩
      rw [← String.toList_ofList (l := Text.withLineFeeds text)] at hinner
      rw [hcontent, hsource, hinner.text_eq, String.toList_ofList]

end Walker

section

variable [Text.Codecs]

namespace OutputSettings

/-- Files are read as UTF-8, be it by name or as the encoding of texts whose encoding is not given. -/
def ReadsUtf8 (s : OutputSettings) : Prop :=
  ∃ name, (s.encoding = .null ∧ name = Text.localeName ∨ s.encoding = .text name ∧
    '\x00' ∉ name.toList) ∧
    decoderOfName name = .ok Text.Encoding.utf8.decode

/-- A text in UTF-8 is read with its line ends as line feeds. -/
theorem ReadsUtf8.decode_eq {s : OutputSettings} (h : s.ReadsUtf8) (text : List Char) :
    s.decode (.ok (Utf8.encode text)) = .ok (String.ofList (Text.withLineFeeds text)) := by
  have hdecode : Text.Encoding.utf8.decode (Utf8.encode text) = .ok text := by
    rw [Text.Encoding.decode, Text.Encoding.decodeUtf8, Utf8.decode_encode]
  rw [decode]
  obtain ⟨name, ⟨hnull, rfl⟩ | ⟨hname, hzero⟩, hdecoder⟩ := h
  · simp [hnull, hdecoder, bind, Except.bind, pure, Except.pure, Except.mapError, hdecode]
  · simp [hname, hzero, hdecoder, bind, Except.bind, pure, Except.pure, Except.mapError, hdecode]

end OutputSettings

namespace Unpacker

variable {u : Unpacker} {d : Disk} {path : String}

/-- A file is unpacked like its text with line feeds, and errors tell its path. -/
theorem unpackFile_eq_of_read {text : List Char} (hutf8 : u.output.ReadsUtf8)
    (hread : d.read (Path.ofText path).text = .ok (Utf8.encode text)) :
    u.unpackFile d path = (u.unpackText (String.ofList (Text.withLineFeeds text))).mapError
      fun e => .script (e.withFile (Path.ofText path).text) := by
  rw [unpackFile, hread]
  simp only [hutf8.decode_eq, bind, Except.bind]

/-- What is unpacked from a file with the bytes of a text:

    * it is what is unpacked from the text with line feeds for its line ends, and from the text itself
      if that has no carriage returns;
    * every record belongs to a part of the text. Its size is the number of bytes of this part exactly
      if there are no line ends of two characters in it, and otherwise less by their number;
    * its content is a part of this part with line feeds for its line ends, so that its bytes are
      those of the file exactly if there are no carriage returns in it. -/
theorem unpackFile_of_text (u : Unpacker) (d : Disk) (path text : String) (hutf8 : u.output.ReadsUtf8)
    (hread : d.read (Path.ofText path).text = .ok (Utf8.encode text.toList)) :
    let shown := String.ofList (Text.withLineFeeds text.toList)
    let result (t : String) : Except Problem WalkResult :=
      (u.unpackText t).mapError fun e => .script (e.withFile (Path.ofText path).text)
    u.unpackFile d path = result shown ∧
    ('\r' ∉ text.toList → u.unpackFile d path = result text) ∧
    ∀ b, Bundle.ofText shown = .ok b →
      u.unpackFile d path = .ok (u.walker.walk b) ∧
      (∀ record ∈ (u.walker.walk b).records, ∃ call, (call, record) ∈ u.walker.entries b) ∧
      ∀ call record, (call, record) ∈ u.walker.entries b →
        ∃ raw, call.ComesFrom text.toList raw ∧
          record.size + Text.doubleEnds raw = (Utf8.encode raw).length ∧
          (record.size = (Utf8.encode raw).length ↔ ¬ ['\r', '\n'] <:+: raw) ∧
          ∃ body, body <:+: raw ∧ record.content.toList = Text.withLineFeeds body ∧
            (Utf8.encode record.content.toList = Utf8.encode body ↔ '\r' ∉ body) := by
  intro shown result
  have hfile : u.unpackFile d path = result shown := unpackFile_eq_of_read hutf8 hread
  refine ⟨hfile, fun hreturn => ?_, fun b hb => ⟨?_, fun record h => Walker.exists_entry h, ?_⟩⟩
  · have hshown : shown = text := by
      rw [← String.ofList_toList (s := text)]
      exact congrArg String.ofList (Text.withLineFeeds_of_notMem hreturn)
    rw [hfile, hshown]
  · rw [hfile]
    simp only [result, unpackText, hb]
    rfl
  · intro call record he
    obtain ⟨raw, hraw, hsize, body, hbody, hcontent⟩ := Walker.exists_raw hb he
    refine ⟨raw, hraw, hsize, ?_, body, hbody, hcontent, ?_⟩
    · rw [← Text.doubleEnds_eq_zero_iff]
      omega
    · rw [hcontent, ← Text.withLineFeeds_eq_self_iff]
      exact ⟨Utf8.encode_injective, congrArg Utf8.encode⟩

end Unpacker

end

/-! ## A line end of two characters -/

namespace Unpacker

open scoped Usual

namespace DoubleEnd

/-- A bundle with a line end of two characters in the body of its module. -/
def text : String := "m.def('/a$1/b',function()\x7b\r\n\x7d)"

/-- A disk with the bundle. -/
def disk : Disk where
  entries := [(["app.js"], .file (Utf8.encode text.toList))]

/-- What a bundle with one module is unpacked to. -/
def resultWith (size : Int) (content : String) : WalkResult where
  status := .ok
  records := [{
    kind := .define, size, path := "/a$1/b", content
    identity := { packageName := "a", version := "1", fileName := "b" } }]

theorem readsUtf8 : (ofSettings {}).output.ReadsUtf8 :=
  ⟨"utf-8", .inr ⟨rfl, by decide⟩, rfl⟩

theorem read_eq : disk.read (Path.ofText "app.js").text = .ok (Utf8.encode text.toList) :=
  rfl

/-- As a text the module keeps both characters of its line end. -/
theorem unpackText_eq : (ofSettings {}).unpackText text = .ok (resultWith 30 "\x7b\r\n\x7d") := by
  decide +kernel

/-- From a file it has one character less. -/
theorem unpackFile_eq :
    (ofSettings {}).unpackFile disk "app.js" = .ok (resultWith 29 "\x7b\n\x7d") := by
  decide +kernel

end DoubleEnd

open DoubleEnd in
/-- The record of the module belongs to a part of the file, which has one byte more than the size
    says. -/
theorem unpackFile_of_double_end :
    (ofSettings {}).output.ReadsUtf8 ∧
      disk.read (Path.ofText "app.js").text = .ok (Utf8.encode text.toList) ∧
      ∃ b call record raw, (ofSettings {}).unpackFile disk "app.js" =
      .ok ((ofSettings {}).walker.walk b) ∧
        (call, record) ∈ (ofSettings {}).walker.entries b ∧ call.ComesFrom text.toList raw ∧
        record.size = 29 ∧ record.size + Text.doubleEnds raw = (Utf8.encode raw).length := by
  refine ⟨readsUtf8, read_eq, ?_⟩
  let shown := String.ofList (Text.withLineFeeds text.toList)
  have hb : Bundle.ofText shown = .ok ⟨Source.ofText shown, (reading shown.toList).root⟩ := by
    rw [Bundle.ofText]
    exact if_pos (by decide +kernel)
  obtain ⟨-, -, hall⟩ := unpackFile_of_text (ofSettings {}) disk "app.js" text readsUtf8 read_eq
  obtain ⟨hfile, hrecords, hraw⟩ := hall _ hb
  rw [Except.ok.inj (hfile.symm.trans unpackFile_eq)] at hrecords
  obtain ⟨call, he⟩ := hrecords _ List.mem_cons_self
  obtain ⟨raw, hcomes, hsize, -⟩ := hraw call _ he
  exact ⟨_, call, _, raw, hfile, he, hcomes, rfl, hsize⟩

open DoubleEnd in
/-- What is unpacked from a file need not be what is unpacked from its text, and the content of a
    module need not be in the file. -/
theorem double_end_lost :
    (¬∀ (u : Unpacker) (d : Disk) (path text : String) (result : WalkResult), u.output.ReadsUtf8 →
      d.read (Path.ofText path).text = .ok (Utf8.encode text.toList) →
      u.unpackText text = .ok result → u.unpackFile d path = .ok result) ∧
    ¬∀ (u : Unpacker) (d : Disk) (path text : String) (result : WalkResult), u.output.ReadsUtf8 →
      d.read (Path.ofText path).text = .ok (Utf8.encode text.toList) →
      u.unpackFile d path = .ok result → ∀ record ∈ result.records, record.kind = .define →
        Utf8.encode record.content.toList <:+: Utf8.encode text.toList := by
  constructor
  · intro h
    have hfile := h _ disk "app.js" text _ readsUtf8 read_eq unpackText_eq
    rw [unpackFile_eq] at hfile
    exact absurd hfile (by decide)
  · intro h
    have hslice := h _ disk "app.js" text _ readsUtf8 read_eq unpackFile_eq _ List.mem_cons_self rfl
    exact absurd hslice (by decide +kernel)

end Unpacker

end BundleManifest
