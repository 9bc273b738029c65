import BundleManifest.Number.Binary64
import BundleManifest.Text.Quoted

/-!
# Values

A settings file holds a value: a scalar, a list, or a mapping whose keys are values as well. The
entries of a mapping keep the order in which their keys appeared first. Some files hold bytes, tuples
and sets, too.

* `Value.sameKey`: when two values are the same key of a mapping;
* `Value.put`, `Value.find?`: the entries of a mapping;
* `Value.shown`: a value as part of a text for people.
-/

namespace BundleManifest

open Number

/-- A value of a settings file. -/
inductive Value where
  | null
  | bool (b : Bool)
  | int (n : Int)
  | float (x : Binary64)
  | text (s : String)
  | list (items : List Value)
  | mapping (entries : List (Value × Value))
  /-- A list that cannot be changed. -/
  | tuple (items : List Value)
  /-- Different values without an order. -/
  | set (items : List Value)
  | bytes (bs : List UInt8)
  /-- A value of another type, with the name of the type and the text of the value. -/
  | other (type shown : String)
  deriving Repr, Inhabited

namespace Value

/-- Whether a value counts as true: it is neither zero nor empty. -/
def truthy : Value → Bool
  | null => false
  | bool b => b
  | int n => n ≠ 0
  | float x => !x.isZero
  | text s => s ≠ ""
  | list items => !items.isEmpty
  | mapping entries => !entries.isEmpty
  | tuple items => !items.isEmpty
  | set items => !items.isEmpty
  | bytes bs => !bs.isEmpty
  | other _ _ => true

/-- The number that a scalar is. -/
def integer? : Value → Option Int
  | bool b => some (if b then 1 else 0)
  | int n => some n
  | _ => none

/-- Whether two scalars are the same key: numbers are compared as numbers, of which the truth values
    are one and zero. -/
def sameKey (v w : Value) : Bool :=
  match v, w with
  | null, null => true
  | text s, text t => s = t
  | bytes a, bytes b => a = b
  | float x, float y => x.equals y
  | other a s, other b t => a = b && s = t
  | float x, w => match w.integer? with
    | some n => x.equalsInt n
    | none => false
  | v, float y => match v.integer? with
    | some n => y.equalsInt n
    | none => false
  | v, w => match v.integer?, w.integer? with
    | some m, some n => m = n
    | _, _ => false

/-- The value of a key among entries. -/
def lookup (key : Value) : List (Value × Value) → Option Value
  | [] => none
  | (k, v) :: rest => if k.sameKey key then some v else lookup key rest

/-- The entries with a new value for a key. A key that is there keeps its place. -/
def insert (key value : Value) : List (Value × Value) → List (Value × Value)
  | [] => [(key, value)]
  | (k, v) :: rest => if k.sameKey key then (k, value) :: rest else (k, v) :: insert key value rest

/-- The value of a key of a mapping. -/
def find? (v : Value) (key : String) : Option Value :=
  match v with
  | mapping entries => lookup (text key) entries
  | _ => none

/-- Whether a value is no collection. -/
def isScalar : Value → Bool
  | list _ | mapping _ | tuple _ | set _ => false
  | _ => true

mutual

/-- How many collections are inside one another in a value. -/
def depth : Value → Nat
  | list items | tuple items | set items => itemsDepth items + 1
  | mapping entries => entriesDepth entries + 1
  | _ => 0

/-- The greatest depth of the items of a collection. -/
def itemsDepth : List Value → Nat
  | [] => 0
  | v :: rest => max v.depth (itemsDepth rest)

/-- The greatest depth of the keys and values of a mapping. -/
def entriesDepth : List (Value × Value) → Nat
  | [] => 0
  | (k, v) :: rest => max (max k.depth v.depth) (entriesDepth rest)

end

/-- A mapping with texts as keys. -/
def record (fields : List (String × Value)) : Value :=
  mapping (fields.map fun (key, value) => (text key, value))

mutual

/-- A value inside another one, as part of a text for people: texts are quoted. -/
def shownInside : Value → String
  | null => "None"
  | bool b => if b then "True" else "False"
  | int n => toString n
  | float x => x.text
  | text s => Text.quoted s
  | list items => "[" ++ shownItems items ++ "]"
  | mapping entries => "\x7b" ++ shownEntries entries ++ "\x7d"
  | tuple [v] => "(" ++ v.shownInside ++ ",)"
  | tuple items => "(" ++ shownItems items ++ ")"
  | set [] => "set()"
  | set items => "\x7b" ++ shownItems items ++ "\x7d"
  | bytes bs => Text.quotedBytes bs
  | other _ shown => shown

/-- The items of a collection, with commas between them. -/
def shownItems : List Value → String
  | [] => ""
  | [v] => v.shownInside
  | v :: rest => v.shownInside ++ ", " ++ shownItems rest

/-- The entries of a mapping, with commas between them. -/
def shownEntries : List (Value × Value) → String
  | [] => ""
  | [(k, v)] => k.shownInside ++ ": " ++ v.shownInside
  | (k, v) :: rest => k.shownInside ++ ": " ++ v.shownInside ++ ", " ++ shownEntries rest

end

/-- A value as part of a text for people. -/
def shown : Value → String
  | text s => s
  | v => v.shownInside

end Value

end BundleManifest
