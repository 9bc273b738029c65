import BundleManifest.Proofs.Script.Parser
import BundleManifest.Script.Grammar.Element

/-!
# Where lists, literals and elements stand

The lists of the grammar, the literals and the elements of pages lay out their nodes between the place
where they begin and the place behind them, if the goals in them do (`Reader.LaysOut`).

Goals inside other goals are read by a reader that is passed on, so that nothing here is by induction
on the script: what is assumed of the reader is what is to be proved of it. The induction is made
once, for all rules of the grammar together, where the programs are (`laysOut_reader`).

* `yields_items`: items with commas between them, and an invariant for their loop;
* `yields_string`, `yields_template`, `yields_regex`, `yields_number`: the literals;
* `yields_element`: elements of pages, with attributes and children.
-/

namespace BundleManifest.Script

/-- Whatever goal a reader reads, the node stands between the place where it began and the place
    behind. -/
def Reader.LaysOut (text : List Char) (read : Reader) : Prop :=
  ∀ goal c, c.At text → Parser.Yields (read goal) c fun p b => Laid text c [p.node] b

namespace Parser

variable {text : List Char} {c : Cursor} {read : Reader}

theorem yields_value (hread : read.LaysOut text) (goal : Goal) (hc : c.At text) :
    Yields (value read goal) c (Laid text c · ·) := by
  refine (yields_toToken hc).bind fun comments b hcomments => ?_
  refine (hread goal b hcomments.place).bind fun p b hp => ?_
  exact .require fun _ => .pure (hcomments.append hp)

/-- The items of a list, and the commas between them. -/
theorem yields_items (close : String) (holes : Bool) {item : Parser Phrase}
    (hitem : ∀ b, b.At text → Yields item b (Laid text b [·.node] ·)) (hc : c.At text) :
    Yields (items close holes item) c fun i b => Laid text c i.nodes.reverse b := by
  refine .iterate _ (.nil hc) fun i b h => ?_
  refine .peek h.place fun t _ => ?_
  split
  · exact .pure h
  split
  · refine .require fun _ => ?_
    refine (yields_mark "," h.place).bind fun comma b hcomma => .pure ?_
    simpa [Items.comma] using h.append hcomma
  refine .mayRepair fun _ => ?_
  split
  · exact .pure h
  · refine (yields_toToken h.place).bind fun comments b hcomments => ?_
    refine (hitem b hcomments.place).bind fun p b hp => .pure ?_
    simpa [Items.item] using (h.append hcomments).append hp

theorem yields_spreadable (hread : read.LaysOut text) (hc : c.At text) :
    Yields (spreadable read) c (Laid text c [·.node] ·) := by
  refine .here ?_
  split
  · refine (yields_immediate "..." hc).bind fun dots b hdots => ?_
    refine (yields_toToken hdots.place).bind fun comments b hcomments => ?_
    refine (hread _ b hcomments.place).bind fun p b hp => .here (.pure ?_)
    exact ((hdots.append hcomments).append hp).node hc _
  · exact hread _ c hc

/-! ## Literals -/

/-- Nodes that are taken step by step stand side by side. -/
theorem yields_nodes {step : Parser (Option (List Node))}
    (hstep : ∀ b, b.At text → Yields step b fun nodes b' => Laid text b (nodes.getD []) b')
    (hc : c.At text) : Yields (nodes step) c (Laid text c · ·) := by
  refine (Yields.iterate (fun l b => Laid text c l.reverse b) (.nil hc) fun l b h => ?_).bind
    fun l b h => .pure h
  refine (hstep b h.place).bind fun nodes b hnodes => ?_
  cases nodes with
  | none => exact .pure (h.extend hnodes.place hnodes.le)
  | some nodes =>
    refine .pure ?_
    simpa using h.append hnodes

/-- A construct whose parts stand right between two equal marks. -/
theorem yields_quoted {step : Parser (Option (List Node))} (symbol mark' : String)
    (hstep : ∀ b, b.At text → Yields step b fun nodes b' => Laid text b (nodes.getD []) b')
    (hc : c.At text) :
    Yields (construct symbol do
      let first ← immediate mark'
      let parts ← nodes step
      return first :: parts ++ [← immediate mark']) c (Laid text c [·] ·) := by
  refine yields_construct _ hc ?_
  refine (yields_immediate _ hc).bind fun first b hfirst => ?_
  refine (yields_nodes hstep hfirst.place).bind fun parts b hparts => ?_
  refine (yields_immediate _ hparts.place).bind fun last b hlast => .pure ?_
  exact (hfirst.append hparts).append hlast

theorem yields_string (quote : Char) (hc : c.At text) :
    Yields (string quote) c (Laid text c [·] ·) := by
  refine yields_quoted _ _ (fun b hb => .here ?_) hc
  split
  · exact .refuse
  split
  · exact .pure (.nil hb)
  split
  · exact (yields_leaf _ _ hb).bind fun _ _ h => .pure h
  split
  · exact (yields_toToken hb).bind fun comments b h => .here (.require fun _ => .pure h)
  · exact (yields_leaf _ _ hb).bind fun _ _ h => .pure h

theorem yields_template (hread : read.LaysOut text) (hc : c.At text) :
    Yields (template read) c (Laid text c [·] ·) := by
  refine yields_quoted _ _ (fun b hb => .here ?_) hc
  split
  · exact .refuse
  split
  · exact .pure (.nil hb)
  split
  · exact (yields_leaf _ _ hb).bind fun _ _ h => .pure h
  split
  · refine (yields_construct _ hb ?_).bind fun _ _ h => .pure h
    refine (yields_immediate _ hb).bind fun first b hfirst => ?_
    refine (yields_value hread _ hfirst.place).bind fun inner b hinner => ?_
    refine (yields_mark _ hinner.place).bind fun last b hlast => .pure ?_
    exact (hfirst.append hinner).append hlast
  · exact (yields_leaf _ _ hb).bind fun _ _ h => .pure h

theorem yields_regex (hc : c.At text) : Yields regex c (Laid text c [·] ·) := by
  refine yields_construct _ hc ?_
  refine (yields_immediate _ hc).bind fun first b hfirst => .here ?_
  refine (yields_leaf _ _ hfirst.place).bind fun pattern b hpattern => ?_
  refine (yields_immediate _ hpattern.place).bind fun last b hlast => .here ?_
  have hall := (hfirst.append hpattern).append hlast
  extract_lets n
  split
  · exact .pure hall
  · exact (yields_leaf _ _ hlast.place).bind fun flags b hflags => .pure (hall.append hflags)

theorem yields_number (hc : c.At text) : Yields number c (Laid text c [·] ·) :=
  .here (yields_leaf _ _ hc)

/-! ## Elements -/

theorem yields_elementName (symbol : String) (hc : c.At text) :
    Yields (elementName symbol) c (Laid text c [·] ·) := by
  refine .here ?_
  refine Yields.here (yields_leaf _ _ hc) |>.bind fun first b hfirst => ?_
  refine .peek hfirst.place fun t _ => ?_
  split
  · refine (yields_mark _ hfirst.place).bind fun colon b hcolon => ?_
    refine (yields_toToken hcolon.place).bind fun comments b hcomments => ?_
    refine Yields.here (yields_leaf _ _ hcomments.place) |>.bind fun second b hsecond => ?_
    exact .here (.pure ((((hfirst.append hcolon).append hcomments).append hsecond).node hc _))
  · exact .pure hfirst

theorem yields_tagName (hc : c.At text) : Yields tagName c (Laid text c [·] ·) := by
  refine .here ?_
  refine (yields_elementName _ hc).bind fun first b hfirst => ?_
  refine .iterate _ hfirst fun target b htarget => ?_
  refine .peek htarget.place fun t _ => ?_
  split
  · refine (yields_mark _ htarget.place).bind fun dot b hdot => ?_
    refine (yields_toToken hdot.place).bind fun comments b hcomments => .here ?_
    refine (yields_leaf _ _ hcomments.place).bind fun property b hproperty => .here (.pure ?_)
    exact ((((htarget.withRole _).append hdot).append hcomments).append
      (hproperty.withRole _)).node hc _
  · exact .pure htarget

theorem yields_attributeString (quote : Char) (hc : c.At text) :
    Yields (attributeString quote) c (Laid text c [·] ·) := by
  refine yields_quoted _ _ (fun b hb => .here ?_) hc
  split
  · exact .refuse
  split
  · exact .pure (.nil hb)
  split
  · exact (yields_leaf _ _ hb).bind fun _ _ h => .pure h
  · exact (yields_leaf _ _ hb).bind fun _ _ h => .pure h

theorem yields_braced (hread : read.LaysOut text) (hc : c.At text) :
    Yields (braced read) c (Laid text c [·] ·) := by
  refine yields_construct _ hc ?_
  refine (yields_mark _ hc).bind fun first b hfirst => ?_
  refine .peek hfirst.place fun t _ => ?_
  split
  · exact (yields_mark _ hfirst.place).bind fun last b hlast => .pure (hfirst.append hlast)
  · refine (yields_toToken hfirst.place).bind fun comments b hcomments => ?_
    -- What follows is the same for both.
    extract_lets rest
    have hrest p b' (hp : Laid text b [p.node] b') : Yields (rest p) b' (Laid text c · ·) := by
      refine .require fun _ => ?_
      refine (yields_mark _ hp.place).bind fun last b hlast => .pure ?_
      exact (hfirst.append hcomments).append (hp.append hlast)
    split
    · exact (yields_spreadable hread hcomments.place).bind hrest
    · exact (hread _ b hcomments.place).bind hrest

theorem yields_tagAttribute (hread : read.LaysOut text) (hc : c.At text) :
    Yields (tagAttribute read) c (Laid text c [·] ·) := by
  refine .here ?_
  split
  · exact yields_braced hread hc
  · refine yields_construct _ hc ?_
    refine (yields_elementName _ hc).bind fun name b hname => ?_
    refine .peek hname.place fun t _ => ?_
    split
    · refine (yields_mark _ hname.place).bind fun mark' b hmark => ?_
      refine (yields_toToken hmark.place).bind fun comments b hcomments => .here ?_
      extract_lets rest
      have hrest value b' (hvalue : Laid text b [value] b') :
          Yields (rest value) b' (Laid text c · ·) :=
        .pure (((hname.append hmark).append hcomments).append hvalue)
      split
      · exact (yields_attributeString _ hcomments.place).bind hrest
      split
      · exact (yields_attributeString _ hcomments.place).bind hrest
      split
      · exact (yields_braced hread hcomments.place).bind hrest
      · exact (hread _ b hcomments.place).bind fun p => hrest p.node
    · exact .pure hname

theorem yields_elementRest (hread : read.LaysOut text) (hc : c.At text) :
    Yields (elementRest read) c (Laid text c · ·) := by
  refine (yields_nodes (fun b hb => ?_) hc).bind fun inner b hinner => ?_
  · refine .here ?_
    extract_lets n
    split
    · exact (yields_leaf _ _ hb).bind fun _ _ h => .pure h
    refine (yields_toToken hb).bind fun comments b hcomments => .here ?_
    split
    · exact (yields_braced hread hcomments.place).bind fun _ _ h => .pure (hcomments.append h)
    split
    · exact (yields_leaf _ _ hcomments.place).bind fun _ _ h => .pure (hcomments.append h)
    split
    · split
      · split
        · exact .pure hcomments.forget
        · exact .pure hcomments
      · exact (hread _ b hcomments.place).bind fun _ _ h => .pure (hcomments.append h)
    · exact .refuse
  · refine (yields_toToken hinner.place).bind fun comments b hcomments => ?_
    refine (yields_construct _ hcomments.place ?_).bind fun closing b hclosing => .pure ?_
    · refine (yields_mark _ hcomments.place).bind fun first b hfirst => ?_
      refine .peek hfirst.place fun t _ => ?_
      split
      · exact (yields_mark _ hfirst.place).bind fun last b hlast => .pure (hfirst.append hlast)
      · refine (yields_toToken hfirst.place).bind fun comments b hcomments => ?_
        refine (yields_tagName hcomments.place).bind fun name b hname => ?_
        refine (yields_mark _ hname.place).bind fun last b hlast => .pure ?_
        exact (hfirst.append hcomments).append (hname.append hlast)
    · exact (hinner.append hcomments).append hclosing

theorem yields_element (hread : read.LaysOut text) (hc : c.At text) :
    Yields (element read) c (Laid text c [·.node] ·) := by
  refine .here ?_
  refine (yields_mark _ hc).bind fun first b hfirst => ?_
  refine .peek hfirst.place fun t _ => ?_
  split
  · refine (yields_mark _ hfirst.place).bind fun last b hlast => .here ?_
    have hopening := (hfirst.append hlast).node hc "jsx_opening_element"
    refine (yields_elementRest hread hlast.place).bind fun rest b hrest => .here (.pure ?_)
    exact (hopening.append hrest).node hc _
  · refine (yields_toToken hfirst.place).bind fun comments b hcomments => ?_
    refine (yields_tagName hcomments.place).bind fun name b hname => ?_
    refine (yields_nodes (fun b hb => ?_) hname.place).bind fun attributes b hattributes => ?_
    · refine .peek hb fun t _ => ?_
      split
      · exact .pure (.nil hb)
      · refine (yields_toToken hb).bind fun comments b hcomments => ?_
        exact (yields_tagAttribute hread hcomments.place).bind fun _ _ h => .pure (hcomments.append h)
    · have hparts := (hfirst.append hcomments).append (hname.append hattributes)
      refine .peek hattributes.place fun t _ => ?_
      extract_lets parts
      split
      · refine (yields_mark _ hattributes.place).bind fun last b hlast => .here (.pure ?_)
        exact (hparts.append hlast).node hc _
      · refine (yields_mark _ hattributes.place).bind fun last b hlast => .here ?_
        have hopening := (hparts.append hlast).node hc "jsx_opening_element"
        refine (yields_elementRest hread hlast.place).bind fun rest b hrest => .here (.pure ?_)
        exact (hopening.append hrest).node hc _

end Parser

end BundleManifest.Script
