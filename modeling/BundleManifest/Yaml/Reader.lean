import BundleManifest.Text.Base64
import BundleManifest.Text.Integer
import BundleManifest.Text.Pieces
import BundleManifest.Value
import BundleManifest.Yaml.Node

/-!
# Values of a YAML text

Every node stands for a value, according to its tag. A mapping can take over the entries of other
mappings with the key `<<`; its own entries come after them and have precedence.

A tag that is not known is refused, and so is a key that is a collection. Of several faults the one
counts that is found first: collections are made before the values in them are, level by level.
-/

namespace BundleManifest.Yaml

open Number

namespace Scalar

/-- A sign and the text behind it. -/
def signed (s : List Char) : Bool × List Char :=
  match s with
  | '-' :: rest => (true, rest)
  | '+' :: rest => (false, rest)
  | _ => (false, s)

/-- The number with given digits to a base. The digits up to nine may be of any script. -/
def number? (base : Nat) (digits : List Char) : Option Nat :=
  if digits.isEmpty then none
  else
    digits.foldlM (fun n c => do
      let d ← (hexDigit? c).or (Text.digit? c)
      if d < base then some (n * base + d) else none) 0

/-- The integer in a text to the base 2, 8 or 16, which the text may say again with a mark: `b`, `o`
    or `x`. -/
def based? (base : Nat) (mark : Char) (s : List Char) : Option Int :=
  let isOut := Text.isPadding (s.all fun c => c.toNat < 0x80)
  let (negative, body) := signed (Text.stripRight isOut (s.dropWhile isOut))
  let digits := match body with
    | '0' :: c :: rest => if c.toLower = mark then rest else body
    | _ => body
  (number? base digits).map fun n => if negative then -(n : Int) else n

/-- The number of an optional result, which is out of range if there is none. -/
def orOutOfRange {α : Type} : Option α → Except Fault α
  | some a => .ok a
  | none => .error .outOfRange

/-- The value of an integer. -/
def int (text : String) : Except Fault Int :=
  let s := text.toList.filter (· ≠ '_')
  let (negative, body) := signed s
  let magnitude : Except Fault Int :=
    match body with
    | [] => .error .noDigits
    | ['0'] => .ok 0
    | '0' :: 'b' :: rest => orOutOfRange (based? 2 'b' rest)
    | '0' :: 'x' :: rest => orOutOfRange (based? 16 'x' rest)
    | '0' :: _ => orOutOfRange (based? 8 'o' body)
    | _ =>
      if body.contains ':' then
        (Text.pieces ':' body).foldlM (fun n part => do
          return n * 60 + (← orOutOfRange (Text.integer? part))) 0
      else orOutOfRange (Text.integer? body)
  magnitude.map fun n => if negative then -n else n

/-- The number nearest to a decimal number with digits before and behind the point and an exponent. -/
def decimal? (negative : Bool) (s : List Char) : Option Binary64 :=
  let whole := s.takeWhile Char.isDigit
  let behind := s.drop whole.length
  let (fraction, behind) := match behind with
    | '.' :: rest => (rest.takeWhile Char.isDigit, rest.dropWhile Char.isDigit)
    | _ => ([], behind)
  let digits := whole ++ fraction
  let exponent : Option Int :=
    match behind with
    | [] => some 0
    | 'e' :: rest =>
      let (minus, ds) := signed rest
      (number? 10 ds).map fun n => if minus then -(n : Int) else n
    | _ => none
  match number? 10 digits, exponent with
  | some c, some e => some (.ofDecimal negative c (e - fraction.length))
  | _, _ => none

/-- The sum of a number that is not negative and a natural number, rounded. -/
def plus (x : Binary64) (n : Nat) : Binary64 :=
  match x with
  | .finite false m e =>
    if 0 ≤ e then .ofRatio false (m * Nat.pow 2 e.toNat + n) 1
    else .ofRatio false (m + n * Nat.pow 2 (-e).toNat) (Nat.pow 2 (-e).toNat)
  | _ => x

/-- The value of a number of double precision. -/
def float (text : String) : Except Fault Binary64 :=
  let s := (text.toList.filter (· ≠ '_')).map Char.toLower
  if s.isEmpty then .error .noDigits
  else
    let (negative, body) := signed s
    let word := String.ofList body
    if word = ".inf" then .ok (.infinite negative)
    else if word = ".nan" then .ok .nan
    else if body.contains ':' then
      let parts := (Text.pieces ':' body).reverse
      let sum := parts.tail.foldlM (fun (x, base) part => do
        let n ← number? 10 part
        return (plus x (n * base), base * 60)) ((decimal? false (parts.headD [])).getD .nan, 60)
      match sum with
      | some (.finite _ m e, _) => .ok (.finite negative m e)
      | _ => .error .outOfRange
    else
      let body := Text.strip body
      let word := String.ofList body
      if word = "inf" ∨ word = "infinity" then .ok (.infinite negative)
      else if word = "nan" then .ok .nan
      else orOutOfRange (decimal? negative body)

/-- The value of a truth value. -/
def bool (text : String) : Except Fault Bool :=
  match Schema.truthWords.lookup (String.ofList (text.toList.map Char.toLower)) with
  | some b => .ok b
  | none => .error .unknownWord

/-- The number of days of a month. -/
def daysOf (year month : Nat) : Nat :=
  if month = 2 then
    if year % 4 = 0 ∧ (year % 100 ≠ 0 ∨ year % 400 = 0) then 29 else 28
  else if month = 4 ∨ month = 6 ∨ month = 9 ∨ month = 11 then 30 else 31

/-- A number with at least `width` digits. -/
def padded (width n : Nat) : String :=
  let ds := Nat.toDigits 10 n
  String.ofList (List.replicate (width - ds.length) '0' ++ ds)

/-- The value of a time. -/
def time (text : String) : Except Fault Value :=
  match Schema.time? text.toList with
  | none => .error .noTime
  | some ⟨(year, month, day), clock⟩ =>
    if year = 0 ∨ month = 0 ∨ 12 < month ∨ day = 0 ∨ daysOf year month < day then .error .outOfRange
    else
      let date := padded 4 year ++ "-" ++ padded 2 month ++ "-" ++ padded 2 day
      match clock with
      | none => .ok (.other "date" date)
      | some ((hour, minute, second), fraction, zone) =>
        if 23 < hour ∨ 59 < minute ∨ 59 < second ∨ (zone.any fun z => 1440 ≤ z.natAbs) then
          .error .outOfRange
        else
          let micro := (fraction ++ List.replicate 6 '0').take 6
          let point := if micro.all (· = '0') then "" else "." ++ String.ofList micro
          let offset := match zone with
            | none => ""
            | some z =>
              (if z < 0 then "-" else "+") ++ padded 2 (z.natAbs / 60) ++ ":" ++
              padded 2 (z.natAbs % 60)
          .ok (.other "datetime" (date ++ " " ++ padded 2 hour ++ ":" ++ padded 2 minute ++ ":"
            ++ padded 2 second ++ point ++ offset))

end Scalar

namespace Node

/-- The tag of a node. -/
def tag : Node → String
  | scalar tag _ => tag
  | sequence tag _ => tag
  | mapping tag _ => tag

/-- The text of a scalar. A mapping stands for the scalar behind its key `=`. -/
def scalarText : Nat → Node → Except Fault String
  | _, scalar _ text => .ok text
  | _, sequence _ _ => .error .malformed
  | 0, mapping _ _ => .error .malformed
  | fuel + 1, mapping _ entries =>
    match entries.find? fun (key, _) => key.tag = coreTag "value" with
    | some (_, node) => scalarText fuel node
    | none => .error .malformed

/-- The entries of a mapping together with those that it takes over, which come first. -/
def allEntries : Nat → List (Node × Node) → Except Fault (List (Node × Node))
  | 0, _ => .error .malformed
  | fuel + 1, entries => do
    let isTaking (e : Node × Node) : Bool := e.1.tag = coreTag "merge"
    let taken ← (entries.filter isTaking).flatMapM fun (_, node) =>
      match node with
      | mapping _ inner => allEntries fuel inner
      | sequence _ items => do
        let parts ← items.mapM fun item =>
          match item with
          | mapping _ inner => allEntries fuel inner
          | _ => .error .malformed
        return parts.reverse.flatten
      | scalar _ _ => .error .malformed
    let own := (entries.filter (!isTaking ·)).map fun (key, node) =>
      if key.tag = coreTag "value" then
        match key with
        | scalar _ text => (scalar (coreTag "str") text, node)
        | _ => (key, node)
      else (key, node)
    return taken ++ own

mutual

/-- The value of a node. -/
def value : Nat → Node → Except Fault Value
  | 0, _ => .error .malformed
  | fuel + 1, node =>
    let text := node.scalarText fuel
    let isTag (name : String) : Bool := node.tag = coreTag name
    if isTag "null" then text.map fun _ => .null
    else if isTag "bool" then (text.bind Scalar.bool).map .bool
    else if isTag "int" then (text.bind Scalar.int).map .int
    else if isTag "float" then (text.bind Scalar.float).map .float
    else if isTag "timestamp" then text.bind Scalar.time
    else if isTag "str" then text.map .text
    else if isTag "binary" then
      text.bind fun s =>
        match Text.Base64.decode? s.toList with
        | some bs => .ok (.bytes bs)
        | none => .error .malformed
    else
      match node with
      | sequence _ items =>
        if isTag "seq" then (values fuel items).map .list
        else if isTag "omap" ∨ isTag "pairs" then
          (items.mapM fun item =>
            match item with
            | mapping _ [(key, node)] => do return Value.tuple [← value fuel key, ← value fuel node]
            | _ => .error .malformed).map .list
        else .error .malformed
      | mapping _ inner =>
        if isTag "map" then ((allEntries fuel inner).bind fun es => entries fuel es []).map .mapping
        else if isTag "set" then
          ((allEntries fuel inner).bind fun es => entries fuel es []).map fun es =>
            .set (es.map fun (key, _) => key)
        else .error .malformed
      | scalar _ _ => .error .malformed

/-- The values of some nodes. -/
def values : Nat → List Node → Except Fault (List Value)
  | 0, _ => .error .malformed
  | _, [] => .ok []
  | fuel + 1, node :: rest => do
    return (← value fuel node) :: (← values fuel rest)

/-- The entries of a mapping, behind those read so far. -/
def entries : Nat → List (Node × Node) → List (Value × Value) → Except Fault (List (Value × Value))
  | 0, _, _ => .error .malformed
  | _, [], acc => .ok acc
  | fuel + 1, (key, node) :: rest, acc => do
    let k ← value fuel key
    if !k.isScalar then .error .malformed
    let v ← value fuel node
    entries fuel rest (Value.insert k v acc)

end

mutual

/-- The number of nodes of a tree, which bounds how deep it is and how long its collections are. -/
def count : Node → Nat
  | scalar _ _ => 1
  | sequence _ items => countAll items + 1
  | mapping _ entries => countEntries entries + 1

/-- The number of nodes of some trees. -/
def countAll : List Node → Nat
  | [] => 0
  | n :: rest => n.count + countAll rest

/-- The number of nodes of some entries. -/
def countEntries : List (Node × Node) → Nat
  | [] => 0
  | (k, v) :: rest => k.count + v.count + countEntries rest

end

/-! ## Faults -/

/-- Whether a tag is that of a collection. -/
def isCollectionTag (tag : String) : Bool :=
  ["seq", "map", "set", "omap", "pairs"].any fun name => tag = coreTag name

/-- What is left to be made of a node: a collection has to be filled later, and a scalar is made at
    once. -/
def later (fuel : Nat) (node : Node) : Except Fault (List Node) :=
  if isCollectionTag node.tag then .ok [node] else (value fuel node).map fun _ => []

/-- What is left to be made of an entry. A collection is no key. -/
def laterEntry (fuel : Nat) (entry : Node × Node) : Except Fault (List Node) := do
  let key ← later fuel entry.1
  if !key.isEmpty then .error .malformed
  later fuel entry.2

/-- Fills a collection, and says what is left to be made of its parts. -/
def fill (fuel : Nat) (node : Node) : Except Fault (List Node) :=
  match node with
  | sequence tag items =>
    if tag = coreTag "seq" then items.flatMapM (later fuel)
    else if tag = coreTag "omap" ∨ tag = coreTag "pairs" then
      items.flatMapM fun item =>
        match item with
        | mapping _ [(key, node)] => return (← later fuel key) ++ (← later fuel node)
        | _ => .error .malformed
    else .error .malformed
  | mapping tag inner =>
    if tag = coreTag "map" ∨ tag = coreTag "set" then do
      (← allEntries fuel inner).flatMapM (laterEntry fuel)
    else .error .malformed
  | scalar _ _ => .error .malformed

/-- The fault that is found first below some nodes, level by level. -/
def firstFault : Nat → List Node → Fault
  | 0, _ => .malformed
  | fuel + 1, nodes =>
    match nodes.flatMapM (fill fuel) with
    | .error f => f
    | .ok deeper => firstFault fuel deeper

/-- The value of a node, or the fault that is found first. -/
def construct (node : Node) : Except Fault Value :=
  let fuel := 4 * node.count + 8
  match node.value fuel with
  | .ok v => .ok v
  | .error _ =>
    match node.later fuel with
    | .error f => .error f
    | .ok nodes => .error (firstFault fuel nodes)

end Node

/-- Reads a text with one document. A text without a document is nothing at all. -/
def read (text : List Char) : Except Fault Value := do
  match ← Node.ofTokens? (tokens text) with
  | none => return .null
  | some node => node.construct

end BundleManifest.Yaml
