import BundleManifest.Proofs.Json.RoundTrip
import BundleManifest.Yaml.Printer

/-!
# What the formats can express

A value can be written as a whole in JSON format if nothing within it hinders that: an integer that is
too long, bytes, a set or a value of another type, or a mapping with a collection as a key. In YAML
format only integers that are too long hinder it.

The writers stop at the first obstacle, and what they have written up to there stays. So whether a
text is complete is a property of the value alone, and not of the place where it stands or of the
layout; it is proved by recursion on the value, with items and entries beside it, in the same way as
the writer itself is defined.

* `Value.Within`: what occurs within a value;
* `Json.complete_print_iff`: when a value is written completely in JSON format;
* `Yaml.hasLong_eq_false_iff`: when a value is written in YAML format.
-/

namespace BundleManifest

namespace Value

/-- The items of a list, a tuple or a set. -/
def items : Value → List Value
  | list items | tuple items | set items => items
  | _ => []

/-- A value occurs within another one: as this itself, or within an item, a key, or a value of it. -/
inductive Within (w : Value) : Value → Prop
  | here : Within w w
  | item {v u : Value} (hu : u ∈ v.items) (h : Within w u) : Within w v
  | key {entries : List (Value × Value)} {e : Value × Value} (he : e ∈ entries) (h : Within w e.1) :
      Within w (.mapping entries)
  | value {entries : List (Value × Value)} {e : Value × Value} (he : e ∈ entries) (h : Within w e.2) :
      Within w (.mapping entries)

/-- Everything within a value has a property. -/
def All (P : Value → Prop) (v : Value) : Prop :=
  ∀ w, Within w v → P w

variable {P : Value → Prop} {v w : Value} {entries : List (Value × Value)}

/-- Within a value that is no mapping there are this itself and what is within its items. -/
theorem all_iff_items (hv : ∀ entries, v ≠ mapping entries) :
    v.All P ↔ P v ∧ ∀ u ∈ v.items, u.All P := by
  constructor
  · exact fun h => ⟨h _ .here, fun u hu w hw => h w (.item hu hw)⟩
  · rintro ⟨hself, hitems⟩ w hw
    cases hw with
    | here => exact hself
    | item hu hw => exact hitems _ hu w hw
    | key | value => exact absurd rfl (hv _)

/-- Within a scalar there is only the scalar. -/
theorem all_scalar_iff (hv : v.isScalar = true) : v.All P ↔ P v := by
  refine (all_iff_items fun entries hmapping => ?_).trans (and_iff_left fun u hu => ?_)
  · rw [hmapping] at hv
    cases hv
  · cases v with
    | list | tuple | set => cases hv
    | _ => cases hu

/-- Within a mapping are the mapping, and what is within its keys and values. -/
theorem all_mapping_iff :
    (mapping entries).All P ↔ P (mapping entries) ∧ ∀ e ∈ entries, e.1.All P ∧ e.2.All P := by
  constructor
  · exact fun h =>
      ⟨h _ .here, fun e he => ⟨fun w hw => h w (.key he hw), fun w hw => h w (.value he hw)⟩⟩
  · rintro ⟨hself, hentries⟩ w hw
    cases hw with
    | here => exact hself
    | item hu => cases hu
    | key he hw => exact (hentries _ he).1 w hw
    | value he hw => exact (hentries _ he).2 w hw

end Value

open Value

/-! ## JSON -/

namespace Json

variable {limit : Option Nat} {l : Layout} {v : Value} {entries : List (Value × Value)}

/-- A value does not hinder the writing, whatever is within it. -/
def Fits (limit : Option Nat) : Value → Prop
  | .int n => tooLong limit (Nat.toDigits 10 n.natAbs).length = false
  | .mapping entries => ∀ e ∈ entries, e.1.isScalar = true
  | .set _ | .bytes _ | .other _ _ => False
  | _ => True

/-- Nothing within a value hinders it from being written in JSON format. -/
def Expressible (limit : Option Nat) : Value → Prop :=
  All (Fits limit)

theorem expressible_scalar_iff (hv : v.isScalar = true) : Expressible limit v ↔ Fits limit v :=
  all_scalar_iff hv

/-- Lists and tuples are written if their items are. -/
theorem expressible_iff_items (hv : ∀ entries, v ≠ .mapping entries) (hfits : Fits limit v) :
    Expressible limit v ↔ ∀ u ∈ v.items, Expressible limit u :=
  (all_iff_items hv).trans (and_iff_right hfits)

/-- Nothing that does not fit itself can be written. -/
theorem not_expressible (hfits : ¬ Fits limit v) : ¬ Expressible limit v :=
  fun h => hfits (h v .here)

/-- A mapping is expressible in JSON format if its keys are scalars and all of its keys and values are
    expressible. -/
theorem expressible_mapping_iff : Expressible limit (.mapping entries) ↔
    (∀ e ∈ entries, e.1.isScalar = true) ∧ ∀ e ∈ entries, Expressible limit e.1 ∧
      Expressible limit e.2 :=
  all_mapping_iff

theorem complete_andThen {w next : Written} :
    (w.andThen next).complete = true ↔ w.complete = true ∧ next.complete = true := by
  rw [Written.andThen]
  split
  · next hw => exact (and_iff_right hw).symm
  · next hw => exact iff_of_false hw fun h => hw h.1

/-- A key is written exactly if it is a scalar that can be expressed. -/
theorem key_iff : l.isTooLong v = false ∧ (keyText? l.ascii v).isSome = true ↔
    v.isScalar = true ∧ Expressible l.limit v := by
  cases v with
  | list | mapping | tuple | set => exact iff_of_false (fun h => by cases h.2) fun h => by cases h.1
  | int n =>
    rw [expressible_scalar_iff rfl]
    exact ⟨fun h => ⟨rfl, h.1⟩, fun h => ⟨h.2, rfl⟩⟩
  | bytes | other => exact iff_of_false (fun h => by cases h.2) fun h => not_expressible id h.2
  | null | bool | float | text =>
    rw [expressible_scalar_iff rfl]
    exact iff_of_true ⟨rfl, rfl⟩ ⟨rfl, trivial⟩

mutual

/-- A value is written completely exactly if nothing within it hinders that. -/
theorem complete_print_iff (l : Layout) : ∀ (v : Value) (level : Nat),
    (print l level v).complete = true ↔ Expressible l.limit v
  | .null, _ | .bool _, _ | .float _, _ | .text _, _ => by
    rw [expressible_scalar_iff rfl]
    exact iff_of_true rfl trivial
  | .int n, level => by
    rw [expressible_scalar_iff rfl, print]
    split
    · next hlong =>
        exact iff_of_false (fun h => by cases h) fun h => absurd (hlong.symm.trans h) (by decide)
    · next hshort => exact iff_of_true rfl (Bool.eq_false_iff.2 hshort)
  | .list items, level | .tuple items, level => by
    refine Iff.trans ?_ (Iff.symm (expressible_iff_items (by simp) trivial))
    rw [print]
    split
    · next hempty =>
      rw [Value.items, List.isEmpty_iff.1 hempty]
      exact iff_of_true rfl (List.forall_mem_nil _)
    · rw [complete_andThen, complete_printItems_iff l items]
      exact and_iff_left rfl
  | .mapping entries, level => by
    rw [expressible_mapping_iff, ← forall₂_and, print]
    split
    · next hempty =>
      rw [List.isEmpty_iff.1 hempty]
      exact iff_of_true rfl (List.forall_mem_nil _)
    · rw [complete_andThen, complete_andThen, complete_printEntries_iff l entries]
      exact (and_iff_left rfl).trans (and_iff_right rfl)
  | .set _, _ | .bytes _, _ | .other _ _, _ => iff_of_false (fun h => by cases h) (not_expressible id)

/-- A list is written to its end exactly if its items are expressible. -/
theorem complete_printItems_iff (l : Layout) :
    ∀ (items : List Value) (level : Nat) (before : List Char),
    (printItems l level before items).complete = true ↔ ∀ v ∈ items, Expressible l.limit v
  | [], _, _ => iff_of_true rfl (List.forall_mem_nil _)
  | v :: items, level, before => by
    rw [List.forall_mem_cons, ← complete_print_iff l v level, ← complete_printItems_iff l items level,
      printItems]
    split
    · next hlong =>
      refine iff_of_false (fun h => by cases h) fun h => ?_
      rw [isTooLong_eq_false h.1] at hlong
      cases hlong
    · rw [complete_andThen, complete_andThen]
      exact and_congr_left fun _ => and_iff_right rfl

/-- A mapping is written to its end exactly if its entries are expressible. -/
theorem complete_printEntries_iff (l : Layout) :
    ∀ (entries : List (Value × Value)) (level : Nat) (before : List Char),
    (printEntries l level before entries).complete = true ↔
      ∀ e ∈ entries, e.1.isScalar = true ∧ Expressible l.limit e.1 ∧ Expressible l.limit e.2
  | [], _, _ => iff_of_true rfl (List.forall_mem_nil _)
  | (k, v) :: entries, level, before => by
    rw [List.forall_mem_cons, ← and_assoc, ← key_iff, ← complete_print_iff l v level,
      ← complete_printEntries_iff l entries level, printEntries]
    split
    · next hlong =>
        exact iff_of_false (fun h => by cases h) fun h =>
          absurd (hlong.symm.trans h.1.1.1) (by decide)
    · next hshort =>
      cases hkey : keyText? l.ascii k with
      | none => exact iff_of_false (fun h => by cases h) fun h => by cases h.1.1.2
      | some text =>
        dsimp only
        rw [complete_andThen, complete_andThen]
        have hwritten : l.isTooLong k = false ∧ (some text).isSome = true :=
          ⟨Bool.eq_false_iff.2 hshort, rfl⟩
        exact and_congr_left fun _ => (and_iff_right rfl).trans (and_iff_right hwritten).symm

end

end Json

/-! ## YAML -/

namespace Yaml

/-- A value does not hinder the writing, whatever is within it. -/
def Fits : Value → Prop
  | .int n => (Nat.toDigits 10 n.natAbs).length ≤ Text.maxIntegerDigits
  | _ => True

/-- Nothing within a value hinders it from being written in YAML format. -/
def Expressible : Value → Prop :=
  All Fits

mutual

/-- A value is written exactly if nothing within it hinders that. -/
theorem hasLong_eq_false_iff : ∀ v : Value, hasLong v = false ↔ Expressible v
  | .null | .bool _ | .float _ | .text _ | .bytes _ | .other _ _ => by
    rw [Expressible, all_scalar_iff rfl]
    exact iff_of_true rfl trivial
  | .int n => by
    rw [Expressible, all_scalar_iff rfl, hasLong, decide_eq_false_iff_not, Nat.not_lt]
    rfl
  | .list items | .tuple items | .set items => by
    refine Iff.trans ?_ (Iff.symm (all_iff_items (by simp)))
    rw [hasLong, hasLongItem_eq_false_iff items]
    exact Iff.symm (and_iff_right trivial)
  | .mapping entries => by
    rw [Expressible, all_mapping_iff, hasLong, hasLongEntry_eq_false_iff entries]
    exact (and_iff_right trivial).symm

/-- No item has a long integer in it exactly if all items are expressible. -/
theorem hasLongItem_eq_false_iff :
    ∀ items : List Value, hasLongItem items = false ↔ ∀ v ∈ items, Expressible v
  | [] => iff_of_true rfl (List.forall_mem_nil _)
  | v :: items => by
    rw [hasLongItem, Bool.or_eq_false_iff, hasLong_eq_false_iff v, hasLongItem_eq_false_iff items,
      List.forall_mem_cons]

theorem hasLongEntry_eq_false_iff : ∀ entries : List (Value × Value), hasLongEntry entries = false ↔
    ∀ e ∈ entries, Expressible e.1 ∧ Expressible e.2
  | [] => iff_of_true rfl (List.forall_mem_nil _)
  | (k, v) :: entries => by
    rw [hasLongEntry, Bool.or_eq_false_iff, Bool.or_eq_false_iff, hasLong_eq_false_iff k,
      hasLong_eq_false_iff v, hasLongEntry_eq_false_iff entries, List.forall_mem_cons]

end

end Yaml

end BundleManifest
