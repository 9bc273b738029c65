/-!
# Kinds of registration calls

A bundle is a list of calls on its module registry, behind the call that starts its loader. The
*kind* of a call says which of these it is, and with it the shape of its arguments.

* `CallKind.ofVerb?` recognizes the method names of the registry; the loader has no method name, so
  that no call on the registry is of its kind;
* `CallKind.isAlias`: the call maps one path onto another and carries no module body;
* `CallKind.emitsRecord`: the call has an entry in the manifest.
-/

namespace BundleManifest

/-- The kinds of calls that register something, or start the loader. -/
inductive CallKind where
  /-- Defines a module: a path and a factory function. -/
  | define
  /-- Declares a dependency edge: parent path, package name and version. -/
  | installed
  /-- Names the main file of a package. -/
  | main
  /-- Replaces one path by another. -/
  | remap
  /-- Names the module that stands for a builtin one. -/
  | builtin
  /-- Runs a module. -/
  | run
  /-- Starts the loader: a function expression that is called where it stands. -/
  | bootstrap
  deriving DecidableEq, Repr, Inhabited

namespace CallKind

/-- Every kind, in the order in which they are listed. -/
def all : List CallKind := [define, installed, main, remap, builtin, run, bootstrap]

/-- The word for a kind in a manifest. For the calls on the registry it is the name of the method. -/
def verb : CallKind → String
  | define => "def"
  | installed => "installed"
  | main => "main"
  | remap => "remap"
  | builtin => "builtin"
  | run => "run"
  | bootstrap => "functionExpression"

/-- Whether a call of this kind is a method call on the registry. -/
def isRegistryVerb : CallKind → Bool
  | bootstrap => false
  | _ => true

/-- Whether a call of this kind maps one path onto another. -/
def isAlias : CallKind → Bool
  | main | remap | builtin => true
  | _ => false

/-- Whether a call of this kind has an entry in the manifest. -/
def emitsRecord : CallKind → Bool
  | run => false
  | _ => true

/-- The kind that a word of a manifest stands for. -/
def ofWord? (word : String) : Option CallKind :=
  all.find? (·.verb = word)

@[simp]
theorem ofWord?_verb (k : CallKind) : ofWord? k.verb = some k := by
  cases k <;> decide

/-- The kind of a call of the method `name` of the registry. -/
def ofVerb? (name : String) : Option CallKind :=
  (ofWord? name).filter isRegistryVerb

end CallKind

end BundleManifest
