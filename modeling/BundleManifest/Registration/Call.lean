import BundleManifest.Registration.Kind
import BundleManifest.Script.Node

/-!
# Registration calls

A call of a script is a *registration* in two cases: it calls a method of the module registry whose
name is one of the registry's verbs, or it calls a function expression where it stands, which is how a
bundle starts its loader. Parentheses around what is called do not matter. Every other call is
ordinary code.

A `Classifier` can ask for the receiver of the method calls: the source text of the object whose
method is called has to be the one it names.
-/

namespace BundleManifest

open Script

/-- A call with what it registers. -/
structure Registration where
  /-- What the call does. -/
  kind : CallKind
  /-- The call. -/
  node : Node
  /-- Its arguments, without comments. -/
  arguments : List Node
  /-- The source text of the object whose method is called; empty for the loader. -/
  receiver : String := ""
  deriving Repr

/-- Which calls count as registrations. -/
structure Classifier where
  /-- The receiver that method calls need, if any will not do. -/
  receiver : Option String := none
  deriving DecidableEq, Repr, Inhabited

/-- The arguments of a call, without marks and comments. -/
def Script.Node.argumentNodes (call : Node) : List Node :=
  match call.child? .arguments with
  | none => []
  | some arguments => arguments.operands

/-- The method that a callee names: its kind, and the source text of its object. -/
def Script.Node.registryMethod? (source : Source) (callee : Node) : Option (CallKind × String) :=
  if callee.kind = .member then
    match callee.child? .property with
    | none => none
    | some property =>
      if property.kind = .propertyIdentifier then
        (CallKind.ofVerb? (property.text source)).map fun kind =>
          (kind, ((callee.child? .object).map (·.text source)).getD "")
      else none
  else none

namespace Classifier

/-- Whether a method call on a given receiver counts. -/
def accepts (c : Classifier) (receiver : String) : Bool :=
  match c.receiver with
  | none => true
  | some wanted => receiver = wanted

/-- The registration that a node is, if it is one. -/
def classify (c : Classifier) (source : Source) (n : Node) : Option Registration :=
  if n.kind = .call then
    match (n.child? .callee).map Node.unwrap with
    | none => none
    | some callee =>
      if callee.kind = .function then
        some { kind := .bootstrap, node := n, arguments := n.argumentNodes }
      else
        match callee.registryMethod? source with
        | none => none
        | some (kind, receiver) =>
          if c.accepts receiver then
            some { kind, node := n, arguments := n.argumentNodes, receiver }
          else none
  else none

end Classifier

namespace Registration

/-- The number of bytes of the call. -/
def size (r : Registration) : Nat :=
  r.node.span

/-- The argument at a place. -/
def argument? (r : Registration) (i : Nat) : Option Node :=
  r.arguments[i]?

end Registration

end BundleManifest
