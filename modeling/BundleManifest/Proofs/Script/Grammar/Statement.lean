import BundleManifest.Proofs.Script.Grammar.Expression
import BundleManifest.Script.Grammar.Program

/-!
# Where statements stand

The imports and exports and all other statements of the grammar lay out their nodes, if the goals in
them do.

There is one lemma for each parser of `Grammar/Exchange` and `Grammar/Statement`, named after it, and
its proof follows the parser: what was read so far is a row of nodes from the beginning of the
statement to the place where the parser is, `Laid.append` puts the nodes of the next part behind it,
and `Laid.node` makes the statement of all of them. Where a parser branches, so does the proof.

* `yields_declaration`, `yields_loop`: what declarations of all kinds, and loops of all kinds, have in
  common;
* `yields_wordStatement?`: the statements that begin with a word of their own;
* `yields_statement`: every statement is laid out, if the goals in it are.
-/

namespace BundleManifest.Script.Parser

variable {text : List Char} {c start : Cursor} {read : Reader} {l : List Node}

/-! ## Imports and exports -/

theorem yields_exchangedName (hc : c.At text) : Yields exchangedName c (Laid text c [·] ·) := by
  refine .here ?_
  split
  · exact yields_string _ hc
  split
  · exact yields_string _ hc
  split
  · exact yields_leaf _ _ hc
  · exact yields_identifier _ hc

theorem yields_specifiers (inward : Bool) (list item : String) (hc : c.At text) :
    Yields (specifiers inward list item) c (Laid text c [·] ·) := by
  refine yields_construct _ hc ?_
  refine (yields_mark _ hc).bind fun first b hfirst => ?_
  refine (yields_items _ _ (fun b hb => ?_) hfirst.place).bind fun inner b hinner => ?_
  · refine (yields_construct _ hb (.here ?_)).bind fun n b hn => .pure hn
    refine (yields_exchangedName hb).bind fun name b hname => ?_
    refine .peek hname.place fun t _ => ?_
    split
    · refine (yields_keyword _ hname.place).bind fun word b hword => ?_
      refine (yields_toToken hword.place).bind fun comments b hcomments => ?_
      have hall := (hname.append hword).append hcomments
      split
      · exact (yields_identifier _ hcomments.place).bind fun _ _ h => .pure (hall.append h)
      · exact (yields_exchangedName hcomments.place).bind fun _ _ h => .pure (hall.append h)
    · exact .require fun _ => .pure hname
  · refine (yields_mark _ hinner.place).bind fun last b hlast => .pure ?_
    exact (hfirst.append hinner).append hlast

theorem yields_exchangedScript (hc : c.At text) : Yields exchangedScript c (Laid text c · ·) := by
  refine (yields_toToken hc).bind fun comments b hcomments => .here ?_
  split
  · exact (yields_string _ hcomments.place).bind fun _ _ h => .pure (hcomments.append h)
  · exact (yields_string _ hcomments.place).bind fun _ _ h => .pure (hcomments.append h)

theorem yields_fromClause (hc : c.At text) : Yields fromClause c (Laid text c · ·) := by
  refine (yields_keyword _ hc).bind fun word b hword => ?_
  exact (yields_exchangedScript hword.place).bind fun _ _ h => .pure (hword.append h)

theorem yields_namespaceClause (inward : Bool) (symbol : String) (hc : c.At text) :
    Yields (namespaceClause inward symbol) c (Laid text c [·] ·) := by
  refine yields_construct _ hc ?_
  refine (yields_mark _ hc).bind fun star b hstar => ?_
  refine (yields_keyword _ hstar.place).bind fun word b hword => ?_
  refine (yields_toToken hword.place).bind fun comments b hcomments => ?_
  have hall := (hstar.append hword).append hcomments
  split
  · exact (yields_identifier _ hcomments.place).bind fun _ _ h => .pure (hall.append h)
  · exact (yields_exchangedName hcomments.place).bind fun _ _ h => .pure (hall.append h)

theorem yields_importClause (hc : c.At text) : Yields importClause c (Laid text c [·] ·) := by
  refine yields_construct _ hc ?_
  extract_lets group
  have hgroup b (hb : b.At text) : Yields group b (Laid text b [·] ·) := by
    refine .here ?_
    split
    · exact yields_namespaceClause _ _ hb
    · exact yields_specifiers _ _ _ hb
  refine .here ?_
  split
  · exact (hgroup c hc).bind fun _ _ h => .pure h
  · refine (yields_identifier _ hc).bind fun name b hname => ?_
    refine .peek hname.place fun t _ => ?_
    split
    · refine (yields_mark _ hname.place).bind fun comma b hcomma => ?_
      refine (yields_toToken hcomma.place).bind fun comments b hcomments => ?_
      refine (hgroup b hcomments.place).bind fun _ _ h => .pure ?_
      exact ((hname.append hcomma).append hcomments).append h
    · exact .pure hname

theorem yields_importAttributes (hread : read.LaysOut text) (hc : c.At text) :
    Yields (importAttributes read) c (Laid text c · ·) := by
  refine .peek hc fun t _ => ?_
  split
  · refine (yields_toToken hc).bind fun comments b hcomments => ?_
    refine (yields_construct _ hcomments.place ?_).bind fun _ _ h => .pure (hcomments.append h)
    refine (yields_keyword _ hcomments.place).bind fun word b hword => ?_
    refine (yields_toToken hword.place).bind fun more b hmore => ?_
    exact (yields_object hread _ hmore.place).bind fun _ _ h => .pure ((hword.append hmore).append h)
  · exact .pure (.nil hc)

theorem yields_importStatement (hread : read.LaysOut text) (hc : c.At text) :
    Yields (importStatement read) c (Laid text c [·.node] ·) := by
  refine .here ?_
  refine (yields_keyword _ hc).bind fun word b hword => ?_
  refine (yields_toToken hword.place).bind fun comments b hcomments => .here ?_
  extract_lets rest
  have hrest parts b' (hparts : Laid text b parts b') :
      Yields (rest parts) b' (Laid text c [·.node] ·) := by
    refine (yields_importAttributes hread hparts.place).bind fun attributes b hattributes => ?_
    refine (yields_semicolon _ hattributes.place).bind fun last b hlast => .here (.pure ?_)
    exact ((((hword.append hcomments).append hparts).append hattributes).append hlast).node hc _
  split
  · exact (yields_exchangedScript hcomments.place).bind hrest
  · refine (yields_importClause hcomments.place).bind fun clause b hclause => ?_
    exact (yields_fromClause hclause.place).bind fun _ b h => hrest _ b (hclause.append h)

/-- An export takes the decorators that stand before it. -/
theorem yields_exportStatement (hread : read.LaysOut text) (hstart : start.At text)
    (hbefore : Laid text start l c) :
    Yields (exportStatement read start l) c (Laid text start [·.node] ·) := by
  refine (yields_keyword _ hbefore.place).bind fun word b hword => ?_
  refine (yields_toToken hword.place).bind fun comments b hcomments => .here ?_
  extract_lets parts next rest
  have hparts : Laid text start parts b := (hbefore.append hword).append hcomments
  have hb := hcomments.place
  split
  · have hrest star b' (hstar : Laid text b star b') :
        Yields (rest star) b' (Laid text start [·.node] ·) := by
      refine (yields_fromClause hstar.place).bind fun source b hsource => ?_
      refine (yields_importAttributes hread hsource.place).bind fun attributes b hattributes => ?_
      refine (yields_semicolon _ hattributes.place).bind fun last b hlast => .here (.pure ?_)
      exact ((((hparts.append hstar).append hsource).append hattributes).append hlast).node hstart _
    split
    · exact (yields_namespaceClause _ _ hb).bind fun n b hn => hrest _ b hn
    · exact (yields_mark _ hb).bind hrest
  split
  · refine (yields_specifiers _ _ _ hb).bind fun clause b hclause => ?_
    refine .peek hclause.place fun t _ => ?_
    extract_lets rest
    have hrest source b' (hsource : Laid text b source b') :
        Yields (rest source) b' (Laid text start [·.node] ·) := by
      have hhead := hparts.append (hclause.append hsource)
      dsimp -zeta only [rest]
      extract_lets last
      have hlast attributes b (hattributes : Laid text b' attributes b) :
          Yields (last attributes) b (Laid text start [·.node] ·) := by
        refine (yields_semicolon _ hattributes.place).bind fun last b hlast => .here (.pure ?_)
        exact ((hhead.append hattributes).append hlast).node hstart _
      split
      · exact hlast [] b' (.nil hsource.place)
      · exact (yields_importAttributes hread hsource.place).bind hlast
    split
    · exact (yields_fromClause hclause.place).bind hrest
    · exact hrest [] b (.nil hclause.place)
  split
  · refine (yields_keyword _ hb).bind fun word b hword => ?_
    refine (yields_toToken hword.place).bind fun comments b hcomments => .here ?_
    have hhead := (hparts.append hword).append hcomments
    split
    · refine (hread _ b hcomments.place).bind fun p b hp => .here (.pure ?_)
      exact (hhead.append hp).node hstart _
    · refine (yields_value hread _ hcomments.place).bind fun value' b hvalue => ?_
      refine (yields_semicolon _ hvalue.place).bind fun last b hlast => .here (.pure ?_)
      exact ((hhead.append hvalue).append hlast).node hstart _
  · refine .require fun _ => (hread _ b hb).bind fun p b hp => .here (.pure ?_)
    exact (hparts.append hp).node hstart _

/-! ## Declarations -/

theorem yields_condition (hread : read.LaysOut text) (hc : c.At text) :
    Yields (condition read) c (Laid text c · ·) := by
  refine (yields_toToken hc).bind fun comments b hcomments => ?_
  refine (yields_construct _ hcomments.place ?_).bind fun _ _ h => .pure (hcomments.append h)
  refine (yields_mark _ hcomments.place).bind fun first b hfirst => ?_
  refine (yields_value hread _ hfirst.place).bind fun inner b hinner => ?_
  exact (yields_closing _ _ hinner.place).bind fun _ _ h => .pure ((hfirst.append hinner).append h)

/-- The statement that a condition governs is laid out together with the end of it. -/
theorem yields_governed (hread : read.LaysOut text) (hc : c.At text) :
    Yields (governed read) c (Laid text c ·.1 ·) := by
  refine (yields_toToken hc).bind fun comments b hcomments => ?_
  exact (hread _ b hcomments.place).bind fun _ _ h => .pure (hcomments.append h)

theorem yields_declarator (hread : read.LaysOut text) (hc : c.At text) :
    Yields (declarator read) c (Laid text c ·.1 ·) := by
  refine (yields_toToken hc).bind fun comments b hcomments => .here ?_
  have hb := hcomments.place
  extract_lets rest
  have hrest name b' (hname : Laid text b name b') : Yields (rest name) b' (Laid text c ·.1 ·) := by
    have hbare := hcomments.append (hname.node hb "variable_declarator")
    refine .continuation hname.place (.here (.pure hbare)) fun t _ => ?_
    refine .ite (fun _ => ?_) fun _ => .here (.pure hbare)
    refine (yields_mark _ hname.place).bind fun op b hop => ?_
    refine (yields_value hread _ hop.place).bind fun right b hright => .here (.pure ?_)
    exact hcomments.append (((hname.append hop).append hright).node hb _)
  split
  · exact (yields_bound hread _ hb).bind hrest
  · exact (yields_identifier _ hb).bind fun n b hn => hrest _ b hn

theorem yields_declarators (hread : read.LaysOut text) (hc : c.At text) :
    Yields (declarators read) c (Laid text c ·.1 ·) := by
  refine (yields_declarator hread hc).bind fun first b hfirst => ?_
  refine .iterate _ hfirst ?_
  rintro ⟨parts, given⟩ b hparts
  refine .continuation hparts.place (.pure hparts) fun t _ => .ite (fun _ => ?_) fun _ => .pure hparts
  refine (yields_mark _ hparts.place).bind fun comma b hcomma => ?_
  exact (yields_declarator hread hcomma.place).bind fun _ _ h =>
    .pure ((hparts.append hcomma).append h)

/-- A declaration begins with its words, and has its declarators behind them. -/
theorem yields_declaration (hread : read.LaysOut text) (hstart : start.At text)
    (hwords : Laid text start l c) (symbol : String) :
    Yields (declaration read start l symbol) c (Laid text start [·.node] ·) := by
  refine (yields_declarators hread hwords.place).bind fun parts b hparts => ?_
  refine (yields_semicolon _ hparts.place).bind fun last b hlast => .here (.pure ?_)
  exact ((hwords.append hparts).append hlast).node hstart _

/-! ## Loops -/

/-- A loop has its body behind what was read of it before. -/
theorem yields_loop (hread : read.LaysOut text) (hstart : start.At text)
    (hparts : Laid text start l c)
    (symbol : String) : Yields (loop read start symbol l) c (Laid text start [·.node] ·) := by
  refine (yields_governed hread hparts.place).bind fun body b hbody => .here (.pure ?_)
  exact (hparts.append hbody).node hstart _

theorem yields_collection (hread : read.LaysOut text) (hc : c.At text) :
    Yields (collection read) c (Laid text c · ·) := by
  refine .peek hc fun t _ => .require fun _ => ?_
  refine (yields_keyword _ hc).bind fun word b hword => ?_
  refine (yields_value hread _ hword.place).bind fun right b hright => ?_
  exact (yields_mark _ hright.place).bind fun _ _ h => .pure ((hword.append hright).append h)

theorem yields_collectionHeader (hread : read.LaysOut text) (hc : c.At text) :
    Yields (collectionHeader read) c (Laid text c · ·) := by
  refine (yields_toToken hc).bind fun comments b hcomments => .here ?_
  split
  · refine (yields_keyword _ hcomments.place).bind fun word b hword => ?_
    refine (yields_toToken hword.place).bind fun more b hmore => ?_
    have hhead := (hcomments.append hword).append hmore
    refine .here (.here ?_)
    extract_lets rest
    have hrest name b' (hname : Laid text b name b') : Yields (rest name) b' (Laid text c · ·) := by
      refine .peek hname.place fun t _ => ?_
      extract_lets last
      have hlast initial b (hinitial : Laid text b' initial b) :
          Yields (last initial) b (Laid text c · ·) := by
        refine (yields_collection hread hinitial.place).bind fun _ _ h => .pure ?_
        exact ((hhead.append hname).append hinitial).append h
      split
      · refine (yields_mark _ hname.place).bind fun op b hop => ?_
        exact (yields_value hread _ hop.place).bind fun _ b h => hlast _ b (hop.append h)
      · exact hlast [] b' (.nil hname.place)
    split
    · exact (yields_bound hread _ hmore.place).bind hrest
    · exact (yields_identifier _ hmore.place).bind fun n b hn => hrest _ b hn
  · refine (hread _ b hcomments.place).bind fun p b hp => .require fun _ => ?_
    exact (yields_collection hread hp.place).bind fun _ _ h => .pure (hcomments.append (hp.append h))

theorem yields_countingHeader (hread : read.LaysOut text) (hc : c.At text) :
    Yields (countingHeader read) c (Laid text c · ·) := by
  refine (yields_toToken hc).bind fun comments a hcomments => .here ?_
  extract_lets clause rest
  have hclause b (hb : b.At text) : Yields clause b (Laid text b · ·) := by
    refine .peek hb fun t _ => .ite (fun _ => yields_mark _ hb) fun _ => ?_
    refine (yields_value hread _ hb).bind fun inner b hinner => ?_
    exact (yields_mark _ hinner.place).bind fun _ _ h => .pure (hinner.append h)
  have hrest initial b (hinitial : Laid text a initial b) :
      Yields (rest initial) b (Laid text c · ·) := by
    refine (hclause b hinitial.place).bind fun test b htest => .peek htest.place fun t _ => ?_
    have hhead := (hcomments.append hinitial).append htest
    extract_lets last
    have hlast step b' (hstep : Laid text b step b') : Yields (last step) b' (Laid text c · ·) :=
      (yields_mark _ hstep.place).bind fun _ _ h => .pure ((hhead.append hstep).append h)
    split
    · exact hlast [] b (.nil htest.place)
    · exact (yields_value hread _ htest.place).bind hlast
  split
  · refine (yields_keyword _ hcomments.place).bind fun word b hword => ?_
    exact (yields_declaration hread hcomments.place hword _).bind fun p b hp => hrest _ b hp
  · exact (hclause a hcomments.place).bind hrest

theorem yields_forLoop (hread : read.LaysOut text) (hc : c.At text) :
    Yields (forLoop read) c (Laid text c [·.node] ·) := by
  refine .here ?_
  refine (yields_keyword _ hc).bind fun word b hword => ?_
  refine (yields_optionalKeyword _ hword.place).bind fun wait b hwait => ?_
  refine (yields_mark _ hwait.place).bind fun first b hfirst => ?_
  have hheader : Yields (orElse (do return (← collectionHeader read, "for_in_statement"))
      (do
        require wait.isEmpty
        return (← countingHeader read, "for_statement"))) b (Laid text b ·.1 ·) := by
    refine .orElse ?_ (.require fun _ => ?_)
    · exact (yields_collectionHeader hread hfirst.place).bind fun _ _ h => .pure h
    · exact (yields_countingHeader hread hfirst.place).bind fun _ _ h => .pure h
  refine hheader.bind fun header b hheader => ?_
  exact yields_loop hread hc (((hword.append hwait).append hfirst).append hheader) _

theorem yields_doLoop (hread : read.LaysOut text) (hc : c.At text) :
    Yields (doLoop read) c (Laid text c [·.node] ·) := by
  refine .here ?_
  refine (yields_keyword _ hc).bind fun word b hword => ?_
  refine (yields_governed hread hword.place).bind fun body b hbody => ?_
  refine (yields_keyword _ hbody.place).bind fun whileWord b hwhile => ?_
  refine (yields_condition hread hwhile.place).bind fun test b htest => ?_
  have hparts := ((hword.append hbody).append hwhile).append htest
  extract_lets parts
  refine (Yields.orElse (yields_semicolon _ htest.place) (.pure (.nil htest.place))).bind
    fun last b hlast => ?_
  exact .here (.pure ((hparts.append hlast).node hc _))

/-! ## Other statements -/

theorem yields_conditional (hread : read.LaysOut text) (hc : c.At text) :
    Yields (conditional read) c (Laid text c [·.node] ·) := by
  refine .here ?_
  refine (yields_keyword _ hc).bind fun word b hword => ?_
  refine (yields_condition hread hword.place).bind fun test b htest => ?_
  refine (yields_governed hread htest.place).bind fun consequence b hconsequence => ?_
  have hparts := (hword.append htest).append hconsequence
  refine .peek hconsequence.place fun t _ => .ite (fun _ => ?_) fun _ =>
    .here (.pure (hparts.node hc _))
  refine (yields_toToken hconsequence.place).bind fun comments b hcomments => .here ?_
  refine (yields_keyword _ hcomments.place).bind fun elseWord b' helse => ?_
  refine (yields_governed hread helse.place).bind fun alternative b' halternative =>
    .here (.here (.pure ?_))
  have hclause := (helse.append halternative).node hcomments.place "else_clause"
  exact ((hparts.append hcomments).append hclause).node hc _

theorem yields_tryStatement (hread : read.LaysOut text) (hc : c.At text) :
    Yields (tryStatement read) c (Laid text c [·.node] ·) := by
  refine .here ?_
  refine (yields_keyword _ hc).bind fun word b hword => ?_
  refine (yields_bodyBlock hread hword.place).bind fun body b hbody => ?_
  refine .peek hbody.place fun t _ => ?_
  extract_lets rest
  have hrest handler b' (hhandler : Laid text b handler b') :
      Yields (rest handler) b' (Laid text c [·.node] ·) := by
    have hhead := (hword.append hbody).append hhandler
    refine .peek hhandler.place fun t _ => ?_
    extract_lets last
    have hlast finalizer b (hfinalizer : Laid text b' finalizer b) :
        Yields (last finalizer) b (Laid text c [·.node] ·) :=
      .here (.pure ((hhead.append hfinalizer).node hc _))
    split
    · refine (yields_toToken hhandler.place).bind fun comments b hcomments => ?_
      refine (yields_construct _ hcomments.place ?_).bind fun n b hn =>
        hlast _ b (hcomments.append hn)
      refine (yields_keyword _ hcomments.place).bind fun word b hword => ?_
      exact (yields_bodyBlock hread hword.place).bind fun _ _ h => .pure (hword.append h)
    · exact hlast [] b' (.nil hhandler.place)
  split
  · refine (yields_toToken hbody.place).bind fun comments a hcomments => ?_
    refine (yields_construct _ hcomments.place ?_).bind fun n b hn => hrest _ b (hcomments.append hn)
    refine (yields_keyword _ hcomments.place).bind fun word b hword => .peek hword.place fun t _ => ?_
    extract_lets inner
    have hinner parameter b' (hparameter : Laid text b parameter b') :
        Yields (inner parameter) b' (Laid text a · ·) :=
      (yields_bodyBlock hread hparameter.place).bind fun _ _ h =>
        .pure ((hword.append hparameter).append h)
    split
    · refine (yields_mark _ hword.place).bind fun first b hfirst => ?_
      refine (yields_bound hread _ hfirst.place).bind fun name b hname => ?_
      exact (yields_mark _ hname.place).bind fun _ b h => hinner _ b ((hfirst.append hname).append h)
    · exact hinner [] b (.nil hword.place)
  · exact hrest [] b (.nil hbody.place)

theorem yields_switchStatement (hread : read.LaysOut text) (hc : c.At text) :
    Yields (switchStatement read) c (Laid text c [·.node] ·) := by
  refine .here ?_
  refine (yields_keyword _ hc).bind fun word b hword => ?_
  refine (yields_condition hread hword.place).bind fun test b htest => ?_
  refine (yields_toToken htest.place).bind fun comments b hcomments => ?_
  have hhead := (hword.append htest).append hcomments
  refine (yields_construct _ hcomments.place ?_).bind fun body b hbody =>
    .here (.pure ((hhead.append hbody).node hc _))
  refine (yields_immediate _ hcomments.place).bind fun first b hfirst => ?_
  refine (yields_nodes (fun b hb => ?_) hfirst.place).bind fun cases b hcases => ?_
  · refine .peek hb fun t _ => .ite (fun _ => .pure (.nil hb)) fun _ => ?_
    refine (yields_toToken hb).bind fun comments a hcomments => ?_
    have ha := hcomments.place
    extract_lets rest
    have hrest node b' (hnode : Laid text a [node] b') :
        Yields (rest node) b' fun nodes b' => Laid text b (nodes.getD []) b' :=
      .pure (hcomments.append hnode)
    split
    · refine (yields_construct _ ha ?_).bind hrest
      refine (yields_keyword _ ha).bind fun word b hword => ?_
      refine (yields_value hread _ hword.place).bind fun test b htest => ?_
      refine (yields_mark _ htest.place).bind fun colon b hcolon => ?_
      refine (yields_statements hread _ hcolon.place).bind fun _ _ h => .pure ?_
      exact ((hword.append htest).append hcolon).append h
    · refine (yields_construct _ ha ?_).bind hrest
      refine (yields_keyword _ ha).bind fun word b hword => ?_
      refine (yields_mark _ hword.place).bind fun colon b hcolon => ?_
      exact (yields_statements hread _ hcolon.place).bind fun _ _ h =>
        .pure ((hword.append hcolon).append h)
  · refine (yields_closing _ _ hcases.place).bind fun last b hlast => .pure ?_
    exact (hfirst.append hcases).append hlast

theorem yields_jump (word symbol : String) (labelled : Bool) (hc : c.At text) :
    Yields (jump word symbol labelled) c (Laid text c [·.node] ·) := by
  refine .here ?_
  refine (yields_keyword _ hc).bind fun first b hfirst => ?_
  extract_lets rest
  have hrest label b' (hlabel : Laid text b label b') :
      Yields (rest label) b' (Laid text c [·.node] ·) := by
    refine (yields_semicolon _ hlabel.place).bind fun last b hlast => .here (.pure ?_)
    exact ((hfirst.append hlabel).append hlast).node hc _
  have hnone := hrest [] b (.nil hfirst.place)
  refine .continuation hfirst.place hnone fun t _ => .ite (fun _ => ?_) fun _ => hnone
  refine (yields_toToken hfirst.place).bind fun comments b hcomments => ?_
  exact (yields_identifier _ hcomments.place).bind fun n b hn => hrest _ b (hcomments.append hn)

theorem yields_returnStatement (hread : read.LaysOut text) (hc : c.At text) :
    Yields (returnStatement read) c (Laid text c [·.node] ·) := by
  refine .here ?_
  refine (yields_keyword _ hc).bind fun word b hword => ?_
  have hlast := yields_semicolon false hword.place
  refine .continuation hword.place ?_ fun t _ => .ite (fun _ => ?_) fun _ => ?_
  · exact hlast.bind fun _ _ h => .here (.pure ((hword.append h).node hc _))
  · exact hlast.bind fun _ _ h => .here (.pure ((hword.append h).node hc _))
  refine (yields_value hread _ hword.place).bind fun inner b hinner => ?_
  refine (yields_semicolon _ hinner.place).bind fun last b hlast => .here (.pure ?_)
  exact ((hword.append hinner).append hlast).node hc _

theorem yields_expressionStatement (hread : read.LaysOut text) (hc : c.At text) :
    Yields (expressionStatement read) c (Laid text c [·.node] ·) := by
  refine .here ((hread _ c hc).bind fun p b hp => .require fun _ => ?_)
  refine (yields_semicolon _ hp.place).bind fun last b hlast => .here (.pure ?_)
  exact (hp.append hlast).node hc _

/-- Whether a function with a name is a declaration or the beginning of an expression, the node stands
    in the same place. -/
theorem yields_declaredOr (hread : read.LaysOut text) {declared : Parser Node} (hc : c.At text)
    (hdeclared : Yields declared c (Laid text c [·] ·)) :
    Yields (declaredOr read declared) c (Laid text c [·.node] ·) := by
  refine .here (hdeclared.bind fun n b hn => .here ?_)
  refine .ite (fun _ => .goOn ?_) fun _ => .pure hn
  exact yields_expressionStatement hread hc

/-- A phrase that is yielded is one that was found. -/
theorem Yields.found {p : Parser Phrase} (h : Yields p c (Laid text start [·.node] ·)) :
    Yields (do return some (← p)) c fun p? b => Laid text start (p?.map (·.node)).toList b :=
  h.bind fun _ _ h => .pure h

/-- A loop or a block with a condition is laid out from its word on. -/
theorem yields_wordLoop (hread : read.LaysOut text) (hc : c.At text) (word symbol : String) :
    Yields (do
        let word ← keyword word
        let test ← condition read
        return some (← loop read c symbol (word ++ test))) c
      fun p? b => Laid text c (p?.map (·.node)).toList b := by
  refine (yields_keyword _ hc).bind fun word b hword => ?_
  refine (yields_condition hread hword.place).bind fun test b htest => ?_
  exact (yields_loop hread hc (hword.append htest) _).found

/-- A declaration is laid out from its word on. -/
theorem yields_wordDeclaration (hread : read.LaysOut text) (hc : c.At text) (word symbol : String) :
    Yields (do
        let words ← keyword word
        return some (← declaration read c words symbol)) c
      fun p? b => Laid text c (p?.map (·.node)).toList b :=
  (yields_keyword _ hc).bind fun _ _ hwords => (yields_declaration hread hc hwords _).found

/-- A statement that begins with its word is laid out; where there is none, no node is made. -/
theorem yields_wordStatement? (hread : read.LaysOut text) (word : String) (hc : c.At text) :
    Yields (wordStatement? read word) c fun p? b => Laid text c (p?.map (·.node)).toList b := by
  refine .here ?_
  extract_lets behind next
  have hnone : Yields (pure none : Parser (Option Phrase)) c
      fun p? b => Laid text c (p?.map (·.node)).toList b := .pure (.nil hc)
  split
  · exact (yields_conditional hread hc).found
  · exact (yields_forLoop hread hc).found
  · exact yields_wordLoop hread hc _ _
  · exact yields_wordLoop hread hc _ _
  · exact (yields_doLoop hread hc).found
  · exact (yields_tryStatement hread hc).found
  · exact (yields_switchStatement hread hc).found
  · exact (yields_jump _ _ _ hc).found
  · exact (yields_jump _ _ _ hc).found
  · exact (yields_jump _ _ _ hc).found
  · exact (yields_returnStatement hread hc).found
  · refine (yields_keyword _ hc).bind fun word b hword => ?_
    refine (yields_value hread _ hword.place).bind fun inner b hinner => ?_
    refine (yields_semicolon _ hinner.place).bind fun last b hlast => .here (.pure ?_)
    exact ((hword.append hinner).append hlast).node hc _
  · exact yields_wordDeclaration hread hc _ _
  · exact yields_wordDeclaration hread hc _ _
  · refine .ite (fun _ => ?_) fun _ => hnone
    exact (yields_declaredOr hread hc (yields_function hread true hc)).found
  · refine .ite (fun _ => ?_) fun _ => hnone
    exact (yields_declaredOr hread hc (yields_classFrom hread hc (.nil hc) true)).found
  · refine .ite (fun _ => hnone) fun _ => ?_
    exact (yields_importStatement hread hc).found
  · refine .ite (fun _ => ?_) fun _ => hnone
    exact (yields_exportStatement hread hc (.nil hc)).found
  · -- None of the words above: what follows decides.
    split
    · exact yields_wordDeclaration hread hc _ _
    split
    · exact yields_wordDeclaration hread hc _ _
    split
    · refine (yields_keyword _ hc).bind fun first b hfirst => ?_
      refine (yields_keyword _ hfirst.place).bind fun words b hwords => ?_
      exact (yields_declaration hread hc (hfirst.append hwords) _).found
    split
    · exact (yields_declaredOr hread hc (yields_function hread true hc)).found
    split
    · refine (yields_leaf _ _ hc).bind fun label b hlabel => ?_
      refine (yields_mark _ hlabel.place).bind fun colon b hcolon => ?_
      refine (yields_governed hread hcolon.place).bind fun body b hbody => .here (.pure ?_)
      exact ((hlabel.append hcolon).append hbody).node hc _
    · exact hnone

theorem yields_decorated (hread : read.LaysOut text) (hc : c.At text) :
    Yields (decorated read) c (Laid text c [·.node] ·) := by
  refine .here ?_
  refine (yields_decorators hread hc).bind fun before b hbefore => ?_
  refine (yields_toToken hbefore.place).bind fun comments b hcomments => .here ?_
  have hhead := hbefore.append hcomments
  split
  · exact yields_exportStatement hread hc hhead
  split
  · exact (yields_classFrom hread hc hhead true).bind fun _ _ h => .pure h
  · exact .goOn (yields_expressionStatement hread hc)

theorem yields_statement (hread : read.LaysOut text) (hc : c.At text) :
    Yields (statement read) c (Laid text c [·.node] ·) := by
  refine .here ?_
  extract_lets asBlock
  have hblock : Yields asBlock c (Laid text c [·.node] ·) :=
    (yields_block hread hc).bind fun _ _ h => .pure h
  split
  · split
    · exact hblock.orElse (yields_expressionStatement hread hc)
    · exact hblock
  split
  · exact (yields_immediate _ hc).bind fun n b hn => .pure (hn.relabel rfl rfl rfl)
  split
  · exact yields_decorated hread hc
  · refine (yields_wordStatement? hread _ hc).bind ?_
    rintro (_ | p) b hp
    · exact (yields_expressionStatement hread hp.place).mono fun _ _ h => hp.append h
    · exact .pure hp

end BundleManifest.Script.Parser
