import BundleManifest.Proofs.Script.Layout
import BundleManifest.Script.Parser

/-!
# What parsers yield

A parser that begins at a place may be stuck. If it is not, something holds of the value and of the
place behind it: this is what it *yields* (`Yields`). A sequence of parsers is taken apart by
`Yields.bind`, and a repetition keeps an invariant (`Yields.iterate`).

Most parsers yield nodes that stand between the place where they begin and the place behind them
(`Laid`): the marks and keywords, the comments before them, and the constructs that are made of all
the parts read since some place.

A parser is a function of the place where it begins, so that what it yields can only be said of a
place. The lemmas for sequences pass on what is known of the value and of the place behind it, and
this is all that a proof about a parser needs: it names the value and the place, and goes on from
there. Being stuck is no value, which is why `Yields.refuse` and the branches that give up need no
proof.
-/

namespace BundleManifest.Script.Parser

variable {α β σ : Type} {text : List Char} {c start : Cursor}

/-- What holds of every value that a parser yields at a place, and of the place behind it. -/
def Yields (p : Parser α) (c : Cursor) (post : α → Cursor → Prop) : Prop :=
  ∀ repair far a behind far', p repair c far = .done a behind far' → post a behind

namespace Yields

variable {p q : Parser α} {f : α → Parser β} {post : α → Cursor → Prop} {post' : β → Cursor → Prop}

theorem pure {a : α} (h : post a c) : Yields (Pure.pure a) c post := by
  rintro _ _ _ _ _ ⟨⟩
  exact h

/-- A parser goes on where the one before it stopped, with what is known of that place. -/
theorem bind (hp : Yields p c post) (hf : ∀ a b, post a b → Yields (f a) b post') :
    Yields (p >>= f) c post' := by
  intro repair far b behind far' h
  simp only [Bind.bind] at h
  split at h
  · next a behind' far'' ha => exact hf a behind' (hp _ _ _ _ _ ha) _ _ _ _ _ h
  · cases h

theorem mono {post' : α → Cursor → Prop} (h : Yields p c post) (hpost : ∀ a b, post a b → post' a b) :
    Yields p c post' :=
  fun repair far a b far' ha => hpost a b (h repair far a b far' ha)

theorem and {post' : α → Cursor → Prop} (h : Yields p c post) (h' : Yields p c post') :
    Yields p c fun a b => post a b ∧ post' a b :=
  fun repair far a b far' ha => ⟨h repair far a b far' ha, h' repair far a b far' ha⟩

theorem any : Yields p c fun _ _ => True :=
  fun _ _ _ _ _ _ => trivial

/-- A parser that is stuck yields no value, so that everything holds of its values. -/
theorem refuse : Yields (refuse : Parser α) c post := by
  rintro _ _ _ _ _ ⟨⟩

/-- The place of the parser is the one it began at. -/
theorem here {f : Cursor → Parser β} (h : Yields (f c) c post') :
    Yields (Parser.here >>= f) c post' := by
  have hhere : Yields Parser.here c fun a b => a = c ∧ b = c := by
    rintro _ _ _ _ _ ⟨⟩
    exact ⟨rfl, rfl⟩
  refine hhere.bind ?_
  rintro _ _ ⟨rfl, rfl⟩
  exact h

theorem goOn {b : Cursor} {f : Unit → Parser β} (h : Yields (f ()) b post') :
    Yields (Parser.goOn b >>= f) c post' := by
  have hgoOn : Yields (Parser.goOn b) c fun _ b' => b' = b := by
    rintro _ _ _ _ _ ⟨⟩
    rfl
  refine hgoOn.bind ?_
  rintro _ _ rfl
  exact h

/-- What holds whether or not the script may be repaired holds. -/
theorem mayRepair {f : Bool → Parser β} (h : ∀ repair, Yields (f repair) c post') :
    Yields (Parser.mayRepair >>= f) c post' := by
  have hmayRepair : Yields Parser.mayRepair c fun _ b => b = c := by
    rintro _ _ _ _ _ ⟨⟩
    rfl
  refine hmayRepair.bind ?_
  rintro repair _ rfl
  exact h repair

/-- Behind a condition this is known to hold. -/
theorem require {allowed : Bool} {f : Unit → Parser β} (h : allowed = true → Yields (f ()) c post') :
    Yields (Parser.require allowed >>= f) c post' := by
  cases allowed with
  | true => exact h rfl
  | false =>
    have hrefuse : Yields (Parser.require false) c fun _ _ => False := refuse
    exact hrefuse.bind fun _ _ hfalse => hfalse.elim

/-- The second parser begins where the first one did. -/
theorem orElse (hp : Yields p c post) (hq : Yields q c post) : Yields (orElse p q) c post := by
  intro repair far a behind far' h
  rw [Parser.orElse] at h
  split at h
  · next hp' =>
    cases h
    exact hp _ _ _ _ _ hp'
  · exact hq _ _ _ _ _ h

theorem ite {p : Prop} [Decidable p] {q r : Parser α} (hq : p → Yields q c post)
    (hr : ¬ p → Yields r c post) : Yields (if p then q else r) c post := by
  split
  · next h => exact hq h
  · next h => exact hr h

/-- A repetition keeps what every step keeps. A step that yields nothing ends it where the step
    ends. -/
theorem iterate {step : σ → Parser (Option σ)} {state : σ} (inv : σ → Cursor → Prop) (h : inv state c)
    (hstep : ∀ s b, inv s b → Yields (step s) b fun next b' => inv (next.getD s) b') :
    Yields (iterate step state) c inv := by
  suffices hgo : ∀ fuel s b, inv s b → Yields (iterate.go step fuel s) b inv from
    fun repair far => hgo c.left state c h repair far
  intro fuel
  induction fuel with
  | zero => exact fun s b hs => pure hs
  | succ fuel ih =>
    intro s b hs
    rw [iterate.go]
    refine (hstep s b hs).bind fun next b' hnext => ?_
    cases next with
    | some s' => exact ih s' b' hnext
    | none => exact pure hnext

end Yields

/-! ## Tokens -/

variable {page : Bool}

/-- Looking ahead takes nothing. -/
theorem yields_peek (hc : c.At text) : Yields (peek page) c fun t b => b = c ∧ Ahead text c t :=
  .here (.pure ⟨rfl, ahead_trivia page hc⟩)

/-- The next token is looked at, and not taken. -/
theorem Yields.peek {f : Cursor.Trivia → Parser β} {post : β → Cursor → Prop} (hc : c.At text)
    (h : ∀ t, Ahead text c t → Yields (f t) c post) : Yields (Parser.peek page >>= f) c post :=
  (yields_peek hc).bind fun t _ ⟨hb, ht⟩ => hb ▸ h t ht

theorem yields_toToken (hc : c.At text) : Yields (toToken page) c (Laid text c · ·) :=
  .peek hc fun _ ht => .goOn (.pure ht.laid)

theorem yields_immediate (mark : String) (hc : c.At text) :
    Yields (immediate mark) c (Laid text c [·] ·) := by
  refine .here ?_
  split
  · exact .goOn (.pure (.mark hc (hc.skip _) (c.offset_le_skip _) mark))
  · exact .refuse

theorem yields_mark (mark' : String) (hc : c.At text) :
    Yields (mark mark' page) c (Laid text c · ·) := by
  refine .peek hc fun t ht => ?_
  split
  · exact .goOn (.pure (ht.laid_mark _ _))
  · exact .refuse

/-- A mark is among the nodes that are taken with it. -/
theorem yields_mark_mem (mark' : String) :
    Yields (mark mark' page) c fun nodes _ => ∃ n ∈ nodes, n.symbol = mark' := by
  refine Yields.any.bind fun t b _ => ?_
  split
  · exact .goOn (.pure ⟨_, List.mem_append_right _ List.mem_cons_self, rfl⟩)
  · exact .refuse

theorem yields_keyword (word : String) (hc : c.At text) :
    Yields (keyword word page) c (Laid text c · ·) := by
  refine .peek hc fun t ht => ?_
  split
  · exact .goOn (.pure (ht.laid_mark _ _))
  · exact .refuse

theorem yields_leaf (symbol : String) (n : Nat) (hc : c.At text) :
    Yields (leaf symbol n) c (Laid text c [·] ·) := by
  refine .here ?_
  split
  · exact .refuse
  · exact .goOn (.pure (.node hc (.gap (hc.skip n) (c.offset_le_skip n)) symbol))

/-- A closing mark that is put in stands behind the last comment and has no bytes. -/
theorem yields_closing (mark' : String) (allowed : Cursor → Bool) (hc : c.At text) :
    Yields (closing mark' allowed page) c (Laid text c · ·) := by
  refine .peek hc fun t ht => ?_
  split
  · exact .goOn (.pure (ht.laid_mark _ _))
  · refine .mayRepair fun repair => ?_
    split
    · have hbehind := ht.comments.place
      have hmark := Laid.mark hbehind hbehind (Nat.le_refl _) mark'
      exact .goOn (.pure (ht.comments.append (hmark.relabel rfl rfl rfl)))
    · exact .refuse

/-- A construct covers its parts, and nothing between it and the place where the reading began. -/
theorem yields_construct {p : Parser (List Node)} (symbol : String) (hc : c.At text)
    (h : Yields p c (Laid text c · ·)) : Yields (construct symbol p) c (Laid text c [·] ·) :=
  .here (h.bind fun _ _ hchildren => .here (.pure (hchildren.node hc symbol)))

/-- Looking for what goes on an expression takes nothing. -/
theorem yields_continuation (semi operator : Bool) (hc : c.At text) :
    Yields (continuation semi operator) c fun t? b => b = c ∧ ∀ t ∈ t?, Ahead text c t := by
  refine .here (.pure ⟨rfl, ?_⟩)
  suffices hgo : ∀ (fuel : Nat) (b : Cursor) (l : List Node), Laid text c l.reverse b →
      ∀ t ∈ continuation.go semi operator fuel b l, Ahead text c t from hgo _ _ [] (.nil hc)
  intro fuel
  induction fuel with
  | zero =>
    rintro b l h _ ⟨⟩
    exact .ofBlank h
  | succ fuel ih =>
    intro b l h t ht
    rw [continuation.go] at ht
    split at ht
    · cases ht
    · split at ht
      · next comment stop hcomment =>
        refine ih _ _ ?_ t ht
        rw [List.reverse_cons]
        exact h.append (laid_comment? h.place hcomment)
      · cases ht
        exact .ofBlank h

/-- What follows an expression is looked at, and not taken. -/
theorem Yields.continuation {semi operator : Bool} {f : Option Cursor.Trivia → Parser β}
    {post : β → Cursor → Prop} (hc : c.At text) (hnone : Yields (f none) c post)
    (hsome : ∀ t, Ahead text c t → Yields (f (some t)) c post) :
    Yields (Parser.continuation semi operator >>= f) c post := by
  refine (yields_continuation semi operator hc).bind ?_
  rintro (_ | t) _ ⟨rfl, ht⟩
  · exact hnone
  · exact hsome t (ht t rfl)

/-- The end of a statement is a semicolon with comments before it, or nothing. -/
theorem yields_semicolon (operator : Bool) (hc : c.At text) :
    Yields (semicolon operator) c (Laid text c · ·) := by
  refine .here ?_
  suffices hgo : ∀ (fuel : Nat) (b : Cursor) (l : List Node), Laid text c l.reverse b →
      ∀ nodes stop, semicolon.go operator fuel b l = some (nodes, stop) → Laid text c nodes stop by
    split
    · next nodes stop h => exact .goOn (.pure (hgo _ _ [] (.nil hc) nodes stop h))
    · exact .refuse
  intro fuel b l
  fun_induction semicolon.go operator fuel b l with
  | case1 fuel b l =>
    rintro h _ _ ⟨⟩
    exact h
  | case2 b l _ fuel comment stop hcomment ih =>
    intro h
    refine ih ?_
    rw [List.reverse_cons]
    exact h.append (laid_comment? h.place hcomment)
  | case3 fuel b l _ blank =>
    rintro h _ _ ⟨⟩
    have hblank : Laid text c l.reverse blank := h.extend (h.place.skip _) (b.offset_le_skip _)
    rw [List.reverse_cons]
    exact hblank.append (.mark hblank.place (hblank.place.skip 1) (blank.offset_le_skip 1) ";")
  | case4 =>
    rintro _ _ _ ⟨⟩

end BundleManifest.Script.Parser
