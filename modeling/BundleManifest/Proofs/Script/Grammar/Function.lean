import BundleManifest.Proofs.Script.Grammar.Literal
import BundleManifest.Script.Grammar.Class

/-!
# Where functions, collections and classes stand

The functions, bracketed lists and classes of the grammar lay out their nodes, if the goals in them
do.

As for the other parts of the grammar there is one lemma for each parser, and each of them says no
more than that the nodes stand where they were read. Lists have a loop in them, whose invariant is
that the items so far stand side by side; they are kept in reverse, so that the row is the one of the
reversed list.

* `yields_parameters`, `yields_block`, `yields_signatureAndBody`: the parts of functions;
* `yields_array`, `yields_object`, `yields_classBody`: what stands between brackets;
* `yields_function`, `yields_classFrom`: functions and classes as a whole.
-/

namespace BundleManifest.Script.Parser

variable {text : List Char} {c start : Cursor} {read : Reader} {l : List Node}

/-! ## Functions -/

theorem yields_identifier (symbol : String) (hc : c.At text) :
    Yields (identifier symbol) c (Laid text c [·] ·) :=
  .here (.require fun _ => yields_leaf _ _ hc)

theorem yields_aName (hc : c.At text) : Yields aName c (Laid text c · ·) :=
  (yields_toToken hc).bind fun _ _ hcomments =>
    (yields_identifier _ hcomments.place).bind fun _ _ hname => .pure (hcomments.append hname)

theorem yields_optionalName (hc : c.At text) : Yields optionalName c (Laid text c · ·) := by
  refine .peek hc fun t _ => ?_
  split
  · exact yields_aName hc
  · exact .pure (.nil hc)

theorem yields_bound (hread : read.LaysOut text) (semi : Bool) (hc : c.At text) :
    Yields (bound read semi) c (Laid text c · ·) := by
  refine (yields_toToken hc).bind fun comments b hcomments => ?_
  refine (hread _ b hcomments.place).bind fun p b hp => ?_
  exact .require fun _ => .pure (hcomments.append hp)

theorem yields_parameters (hread : read.LaysOut text) (hc : c.At text) :
    Yields (parameters read) c (Laid text c [·] ·) := by
  refine yields_construct _ hc ?_
  refine (yields_mark _ hc).bind fun first b hfirst => ?_
  refine (yields_items _ _ (fun _ => yields_spreadable hread) hfirst.place).bind
    fun inner b hinner => ?_
  refine .require fun _ => ?_
  refine (yields_mark _ hinner.place).bind fun last b hlast => .pure ?_
  exact (hfirst.append hinner).append hlast

theorem yields_betweenStatements (openEnd : Bool) (hc : c.At text) :
    Yields (betweenStatements openEnd) c (Laid text c · ·) := by
  rw [betweenStatements]
  split
  · refine .here (.goOn (.pure ?_))
    suffices hgo : ∀ (fuel : Nat) (b : Cursor) (l : List Node), Laid text c l.reverse b →
        Laid text c (betweenStatements.go fuel b l).1 (betweenStatements.go fuel b l).2 from
      hgo _ _ [] (.nil hc)
    intro fuel b l
    fun_induction betweenStatements.go fuel b l with
    | case1 fuel b l => exact fun h => h.append (ahead_trivia true h.place).laid
    | case2 b l _ fuel comment stop hcomment ih =>
      intro h
      refine ih ?_
      rw [List.reverse_cons]
      exact h.append (laid_comment? h.place hcomment)
    | case3 fuel b l => exact fun h => h.extend (h.place.skip _) (b.offset_le_skip _)
  · exact yields_toToken hc

theorem yields_statements (hread : read.LaysOut text) (ends : Cursor → Bool) (hc : c.At text) :
    Yields (statements read ends) c (Laid text c · ·) := by
  refine (Yields.iterate (fun s b => Laid text c s.1.reverse b) (.nil hc) ?_).bind
    fun s b h => .pure h
  rintro ⟨acc, openEnd⟩ b h
  refine .here ?_
  refine (yields_betweenStatements openEnd h.place).bind fun comments b' hcomments => .here ?_
  split
  · exact .goOn (.pure h)
  · refine (hread _ b' hcomments.place).bind fun p b hp => .pure ?_
    simpa using (h.append hcomments).append hp

theorem yields_block (hread : read.LaysOut text) (hc : c.At text) :
    Yields (block read) c (Laid text c [·] ·) := by
  refine yields_construct _ hc ?_
  refine (yields_immediate _ hc).bind fun first b hfirst => ?_
  refine (yields_statements hread _ hfirst.place).bind fun inner b hinner => ?_
  refine (yields_closing _ _ hinner.place).bind fun last b hlast => .pure ?_
  exact (hfirst.append hinner).append hlast

theorem yields_bodyBlock (hread : read.LaysOut text) (hc : c.At text) :
    Yields (bodyBlock read) c (Laid text c · ·) := by
  refine (yields_toToken hc).bind fun comments b hcomments => ?_
  refine (yields_block hread hcomments.place).bind fun body b hbody => .pure ?_
  exact hcomments.append (hbody.withRole _)

theorem yields_optionalKeyword (word : String) (hc : c.At text) :
    Yields (optionalKeyword word) c (Laid text c · ·) := by
  refine .peek hc fun t _ => ?_
  split
  · exact yields_keyword _ hc
  · exact .pure (.nil hc)

theorem yields_optionalMark (mark' : String) (hc : c.At text) :
    Yields (optionalMark mark') c (Laid text c · ·) := by
  refine .peek hc fun t _ => ?_
  split
  · exact yields_mark _ hc
  · exact .pure (.nil hc)

theorem yields_signatureAndBody (hread : read.LaysOut text) (hc : c.At text) :
    Yields (signatureAndBody read) c (Laid text c · ·) := by
  refine (yields_toToken hc).bind fun comments b hcomments => ?_
  refine (yields_parameters hread hcomments.place).bind fun params b hparams => ?_
  refine (yields_bodyBlock hread hparams.place).bind fun body b hbody => .pure ?_
  exact hcomments.append (hparams.append hbody)

theorem yields_function (hread : read.LaysOut text) (declared : Bool) (hc : c.At text) :
    Yields (function read declared) c (Laid text c [·] ·) := by
  refine .here ?_
  refine (yields_optionalKeyword _ hc).bind fun async b hasync => ?_
  refine (yields_keyword _ hasync.place).bind fun word b hword => ?_
  refine (yields_optionalMark _ hword.place).bind fun star b hstar => ?_
  extract_lets symbol rest
  have hrest name b' (hname : Laid text b name b') : Yields (rest name) b' (Laid text c [·] ·) := by
    refine (yields_signatureAndBody hread hname.place).bind fun body b hbody => .here (.pure ?_)
    exact ((((hasync.append hword).append hstar).append hname).append hbody).node hc _
  split
  · exact (yields_aName hstar.place).bind hrest
  · exact (yields_optionalName hstar.place).bind hrest

theorem yields_arrowBody (hread : read.LaysOut text) (semi : Bool) (hc : c.At text) :
    Yields (arrowBody read semi) c (Laid text c · ·) := by
  refine (yields_mark _ hc).bind fun arrow b harrow => ?_
  refine (yields_toToken harrow.place).bind fun comments b hcomments => .here ?_
  extract_lets expression rest
  have hrest body b' (hbody : Laid text b [body] b') : Yields (rest body) b' (Laid text c · ·) :=
    .pure ((harrow.append hcomments).append (hbody.withRole _))
  have hblock := yields_block hread hcomments.place
  have hexpression : Yields expression b (Laid text b [·] ·) :=
    (hread _ b hcomments.place).bind fun p b hp => .require fun _ => .pure hp
  split
  · split
    · exact (hblock.orElse hexpression).bind hrest
    · exact hblock.bind hrest
  · exact hexpression.bind hrest

/-! ## Collections -/

theorem yields_arguments (hread : read.LaysOut text) (semi : Bool) (hc : c.At text) :
    Yields (arguments read semi) c (Laid text c [·] ·) := by
  refine (yields_construct _ hc ?_).bind fun n b hn => .pure (hn.withRole _)
  refine (yields_mark _ hc).bind fun first b hfirst => ?_
  refine (yields_items _ _ (fun _ => yields_spreadable hread) hfirst.place).bind
    fun inner b hinner => ?_
  refine .require fun _ => ?_
  refine (yields_closing _ _ hinner.place).bind fun last b hlast => .pure ?_
  exact (hfirst.append hinner).append hlast

theorem yields_array (hread : read.LaysOut text) (semi : Bool) (hc : c.At text) :
    Yields (array read semi) c (Laid text c [·.node] ·) := by
  refine .here ?_
  refine (yields_mark _ hc).bind fun first b hfirst => ?_
  refine (yields_items _ _ (fun _ => yields_spreadable hread) hfirst.place).bind
    fun inner b hinner => ?_
  refine (yields_closing _ _ hinner.place).bind fun last b hlast => .here (.pure ?_)
  exact ((hfirst.append hinner).append hlast).node hc _

theorem yields_propertyName (hread : read.LaysOut text) (hc : c.At text) :
    Yields (propertyName read) c (Laid text c · ·) := by
  refine (yields_toToken hc).bind fun comments b hcomments => .here ?_
  extract_lets rest
  have hb := hcomments.place
  have hrest name b' (hname : Laid text b [name] b') : Yields (rest name) b' (Laid text c · ·) :=
    .pure (hcomments.append hname)
  split
  · exact Yields.refuse.bind hrest
  split
  · exact (yields_string _ hb).bind hrest
  split
  · refine (yields_construct _ hb ?_).bind hrest
    refine (yields_mark _ hb).bind fun first b hfirst => ?_
    refine (yields_value hread _ hfirst.place).bind fun inner b hinner => ?_
    refine (yields_mark _ hinner.place).bind fun last b hlast => .pure ?_
    exact (hfirst.append hinner).append hlast
  split
  · exact (yields_leaf _ _ hb).bind hrest
  split
  · exact (yields_number hb).bind hrest
  · exact (yields_leaf _ _ hb).bind hrest

theorem yields_modifier (ends : Cursor → Bool) (words : List String) (hc : c.At text) :
    Yields (modifier ends words) c (Laid text c · ·) := by
  refine .peek hc fun t _ => ?_
  split
  · exact yields_keyword _ hc
  · exact .pure (.nil hc)

theorem yields_modifiers (ends : Cursor → Bool) (hc : c.At text) :
    Yields (modifiers ends) c (Laid text c · ·) := by
  refine (yields_modifier _ _ hc).bind fun first b hfirst => ?_
  refine (yields_modifier _ _ hfirst.place).bind fun second b hsecond => ?_
  refine (yields_modifier _ _ hsecond.place).bind fun third b hthird => ?_
  have hwords := (hfirst.append hsecond).append hthird
  extract_lets rest
  have hrest star b' (hstar : Laid text b star b') : Yields (rest star) b' (Laid text c · ·) :=
    .pure (hwords.append hstar)
  split
  · exact (yields_optionalMark _ hthird.place).bind hrest
  · exact hrest [] b (.nil hthird.place)

theorem yields_property (hread : read.LaysOut text) (hc : c.At text) :
    Yields (property read) c (Laid text c [·.node] ·) := by
  refine .here ?_
  split
  · exact yields_spreadable hread hc
  refine (yields_modifiers _ hc).bind fun before b hbefore => ?_
  refine (yields_propertyName hread hbefore.place).bind fun key b hkey => ?_
  refine .peek hkey.place fun t _ => ?_
  split
  · refine (yields_signatureAndBody hread hkey.place).bind fun rest b hrest => .here (.pure ?_)
    exact ((hbefore.append hkey).append hrest).node hc _
  refine .require fun _ => ?_
  -- There are no words before the name from here on.
  have hkey' := (hbefore.forget).append hkey
  split
  · refine (yields_mark _ hkey.place).bind fun colon b hcolon => ?_
    refine (yields_toToken hcolon.place).bind fun comments b hcomments => ?_
    refine (hread _ b hcomments.place).bind fun p b hp => .here (.pure ?_)
    exact (((hkey'.append hcolon).append hcomments).append hp).node hc _
  refine .require fun _ => .here ?_
  have hname := hkey'.forget.node hc "shorthand_property_identifier"
  extract_lets name
  split
  · refine (yields_mark _ hkey.place).bind fun mark' b hmark => ?_
    refine (yields_value hread _ hmark.place).bind fun right b hright => .here (.pure ?_)
    exact ((hname.append hmark).append hright).node hc _
  · exact .pure hname

theorem yields_object (hread : read.LaysOut text) (semi : Bool) (hc : c.At text) :
    Yields (object read semi) c (Laid text c [·.node] ·) := by
  refine .here ?_
  refine (yields_mark _ hc).bind fun first b hfirst => ?_
  refine (yields_items _ _ (fun _ => yields_property hread) hfirst.place).bind
    fun inner b hinner => ?_
  refine (yields_closing _ _ hinner.place).bind fun last b hlast => .here (.pure ?_)
  exact ((hfirst.append hinner).append hlast).node hc _

/-! ## Classes -/

theorem yields_decorator (hread : read.LaysOut text) (hc : c.At text) :
    Yields (decorator read) c (Laid text c [·] ·) := by
  refine yields_construct _ hc ?_
  refine (yields_immediate _ hc).bind fun first b hfirst => ?_
  refine (yields_toToken hfirst.place).bind fun comments a hcomments => .here ?_
  have hbefore := hfirst.append hcomments
  split
  · refine (hread _ a hcomments.place).bind fun p b hp => ?_
    exact .require fun _ => .pure (hbefore.append hp)
  refine (yields_identifier _ hcomments.place).bind fun name b hname => ?_
  refine (Yields.iterate (Laid text a [·] ·) hname fun target b htarget => ?_).bind
    fun target b htarget => ?_
  · refine .peek htarget.place fun t _ => ?_
    split
    · refine (yields_mark _ htarget.place).bind fun dot b hdot => ?_
      refine (yields_toToken hdot.place).bind fun more b hmore => .here ?_
      refine (yields_leaf _ _ hmore.place).bind fun property b hproperty => .here (.pure ?_)
      exact ((((htarget.withRole _).append hdot).append hmore).append
        (hproperty.withRole _)).node hcomments.place _
    · exact .pure htarget
  · refine .peek htarget.place fun t _ => ?_
    split
    · refine (yields_toToken htarget.place).bind fun more b hmore => ?_
      refine (yields_arguments hread _ hmore.place).bind fun args b hargs => .here (.pure ?_)
      have hcall := (((htarget.withRole .callee).append hmore).append hargs).node hcomments.place
        "call_expression"
      exact hbefore.append hcall
    · exact .pure (hbefore.append htarget)

theorem yields_decorators (hread : read.LaysOut text) (hc : c.At text) :
    Yields (decorators read) c (Laid text c · ·) := by
  refine yields_nodes (fun b hb => ?_) hc
  refine .peek hb fun t _ => ?_
  split
  · refine (yields_toToken hb).bind fun comments b hcomments => ?_
    exact (yields_decorator hread hcomments.place).bind fun _ _ h => .pure (hcomments.append h)
  · exact .pure (.nil hb)

theorem yields_member (hread : read.LaysOut text) (hc : c.At text) :
    Yields (member read) c (Laid text c · ·) := by
  refine .here ?_
  refine (yields_decorators hread hc).bind fun before b hbefore => ?_
  refine .peek hbefore.place fun t _ => ?_
  extract_lets opening
  split
  · refine (yields_construct _ hbefore.place ?_).bind fun n b hn => .pure (hbefore.forget.append hn)
    refine (yields_keyword _ hbefore.place).bind fun word b hword => ?_
    exact (yields_bodyBlock hread hword.place).bind fun body b hbody => .pure (hword.append hbody)
  refine (yields_modifiers _ hbefore.place).bind fun words b hwords => ?_
  refine (yields_propertyName hread hwords.place).bind fun key b hkey => ?_
  have hhead := (hbefore.append hwords).append hkey
  refine .peek hkey.place fun t _ => ?_
  split
  · refine (yields_signatureAndBody hread hkey.place).bind fun rest b hrest => .here (.pure ?_)
    exact (hhead.append hrest).node hc _
  refine .require fun _ => ?_
  extract_lets rest
  have hrest value' b' (hvalue : Laid text b value' b') :
      Yields (rest value') b' (Laid text c · ·) := by
    refine .here ?_
    have hfield := (hhead.append hvalue).node hc "field_definition"
    exact (yields_semicolon _ hvalue.place).bind fun last b hlast => .pure (hfield.append hlast)
  have hnone := hrest [] b (.nil hkey.place)
  refine .continuation hkey.place hnone fun t _ => .ite (fun _ => ?_) fun _ => hnone
  refine (yields_mark _ hkey.place).bind fun mark' b hmark => ?_
  exact (yields_value hread _ hmark.place).bind fun value' b hvalue => hrest _ b (hmark.append hvalue)

theorem yields_classBody (hread : read.LaysOut text) (hc : c.At text) :
    Yields (classBody read) c (Laid text c [·] ·) := by
  refine (yields_construct _ hc ?_).bind fun body b hbody => .pure (hbody.withRole _)
  refine (yields_immediate _ hc).bind fun first b hfirst => ?_
  refine (yields_nodes (fun b hb => ?_) hfirst.place).bind fun inner b hinner => ?_
  · refine .peek hb fun t _ => ?_
    split
    · exact .pure (.nil hb)
    split
    · exact (yields_mark _ hb).bind fun _ _ h => .pure h
    · refine (yields_toToken hb).bind fun comments b hcomments => ?_
      exact (yields_member hread hcomments.place).bind fun _ _ h => .pure (hcomments.append h)
  · refine (yields_closing _ _ hinner.place).bind fun last b hlast => .pure ?_
    exact (hfirst.append hinner).append hlast

/-- A class takes the decorators that stand before it. -/
theorem yields_classFrom (hread : read.LaysOut text) (hstart : start.At text)
    (hbefore : Laid text start l c) (declared : Bool) :
    Yields (classFrom read start l declared) c (Laid text start [·] ·) := by
  refine (yields_keyword _ hbefore.place).bind fun word b hword => ?_
  extract_lets symbol rest
  have hrest name b' (hname : Laid text b name b') :
      Yields (rest name) b' (Laid text start [·] ·) := by
    have hhead := (hbefore.append hword).append hname
    refine .peek hname.place fun t _ => ?_
    extract_lets body
    have hbody heritage b (hheritage : Laid text b' heritage b) :
        Yields (body heritage) b (Laid text start [·] ·) := by
      refine (yields_toToken hheritage.place).bind fun comments b hcomments => ?_
      refine (yields_classBody hread hcomments.place).bind fun body b hbody => .here (.pure ?_)
      exact (((hhead.append hheritage).append hcomments).append hbody).node hstart _
    split
    · refine (yields_toToken hname.place).bind fun comments b hcomments => ?_
      refine (yields_construct _ hcomments.place ?_).bind fun n b hn =>
        hbody _ b (hcomments.append hn)
      refine (yields_keyword _ hcomments.place).bind fun word b hword => ?_
      exact (yields_value hread _ hword.place).bind fun _ _ h => .pure (hword.append h)
    · exact hbody [] b' (.nil hname.place)
  split
  · exact (yields_aName hword.place).bind hrest
  · exact (yields_optionalName hword.place).bind hrest

end BundleManifest.Script.Parser
