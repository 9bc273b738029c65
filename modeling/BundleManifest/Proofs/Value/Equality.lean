import BundleManifest.Settings

/-!
# Equality of values

Values are equal if they are built alike, which can be decided. So what is read from a text, and what
is loaded from a file, can be compared with what it should be. This is not the equality of keys, to
which a number and a truth value may be the same.

Equality is computed by a mutual recursion on the value, its items and its entries, and the two
directions of the proof are recursions of the same form.
-/

namespace BundleManifest

namespace Value

mutual

/-- Whether two values are equal. -/
def isEq : Value → Value → Bool
  | .null, .null => true
  | .bool a, .bool b => a = b
  | .int m, .int n => m = n
  | .float x, .float y => x = y
  | .text s, .text t => s = t
  | .list items, .list others | .tuple items, .tuple others | .set items, .set others =>
    itemsEq items others
  | .mapping entries, .mapping others => entriesEq entries others
  | .bytes a, .bytes b => a = b
  | .other type shown, .other type' shown' => type = type' && shown = shown'
  | _, _ => false

/-- Whether the items of two lists are equal. -/
def itemsEq : List Value → List Value → Bool
  | [], [] => true
  | v :: items, w :: others => isEq v w && itemsEq items others
  | _, _ => false

/-- Whether the entries of two mappings are equal. -/
def entriesEq : List (Value × Value) → List (Value × Value) → Bool
  | [], [] => true
  | (k, v) :: entries, (k', v') :: others => isEq k k' && isEq v v' && entriesEq entries others
  | _, _ => false

end

mutual

theorem isEq_self : ∀ v : Value, isEq v v = true
  | .null => rfl
  | .bool _ | .int _ | .float _ | .text _ | .bytes _ | .other _ _ => by simp [isEq]
  | .list items | .tuple items | .set items => itemsEq_self items
  | .mapping entries => entriesEq_self entries

theorem itemsEq_self : ∀ items : List Value, itemsEq items items = true
  | [] => rfl
  | v :: items => by rw [itemsEq, isEq_self v, itemsEq_self items, Bool.and_self]

theorem entriesEq_self : ∀ entries : List (Value × Value), entriesEq entries entries = true
  | [] => rfl
  | (k, v) :: entries => by
    rw [entriesEq, isEq_self k, isEq_self v, entriesEq_self entries, Bool.and_self, Bool.and_self]

end

mutual

/-- What is found to be equal is equal. -/
theorem eq_of_isEq : ∀ v w : Value, isEq v w = true → v = w
  | .null, w, h | .bool _, w, h | .int _, w, h | .float _, w, h | .text _, w, h | .bytes _, w, h
  | .other _ _, w, h => by
    cases w <;> simp_all [isEq]
  | .list items, w, h => by
    cases w with
    | list others => rw [eq_of_itemsEq items others h]
    | _ => cases h
  | .tuple items, w, h => by
    cases w with
    | tuple others => rw [eq_of_itemsEq items others h]
    | _ => cases h
  | .set items, w, h => by
    cases w with
    | set others => rw [eq_of_itemsEq items others h]
    | _ => cases h
  | .mapping entries, w, h => by
    cases w with
    | mapping others => rw [eq_of_entriesEq entries others h]
    | _ => cases h

theorem eq_of_itemsEq : ∀ items others : List Value, itemsEq items others = true → items = others
  | [], [], _ => rfl
  | v :: items, w :: others, h => by
    rw [itemsEq, Bool.and_eq_true] at h
    rw [eq_of_isEq v w h.1, eq_of_itemsEq items others h.2]

theorem eq_of_entriesEq :
    ∀ entries others : List (Value × Value), entriesEq entries others = true → entries = others
  | [], [], _ => rfl
  | (k, v) :: entries, (k', v') :: others, h => by
    rw [entriesEq, Bool.and_eq_true, Bool.and_eq_true] at h
    rw [eq_of_isEq k k' h.1.1, eq_of_isEq v v' h.1.2, eq_of_entriesEq entries others h.2]

end

instance : DecidableEq Value := fun v w =>
  decidable_of_iff (isEq v w = true) ⟨eq_of_isEq v w, fun h => h ▸ isEq_self v⟩

end Value

deriving instance DecidableEq for ExtractionSettings

deriving instance DecidableEq for OutputSettings

deriving instance DecidableEq for Settings

end BundleManifest
