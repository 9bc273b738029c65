import BundleManifest.Text.Quoted

/-!
# The catalog of public names

The tool offers its parts under public names, which are kept in two sections: one for the whole tool,
and one for the analysis of bundles. `Section.entry` finds a name, or says that it is not there.

* `Section.ofTitle?_eq_some_iff`: a section is found by its title;
* `Section.entry_eq_ok_iff`, `Section.entry_eq_error_iff`: a name is found under itself exactly if it
  is in the section, and else the section and the name are told.
-/

namespace BundleManifest.Catalog

/-- A section of the catalog. -/
inductive Section where
  /-- The whole tool. -/
  | tool
  /-- The analysis of bundles. -/
  | analysis
  deriving DecidableEq, Repr

namespace Section

/-- The title of a section. -/
def title : Section → String
  | tool => "lasso_unpack"
  | analysis => "lasso_unpack.analysis"

/-- The section with a title. -/
def ofTitle? (title : String) : Option Section :=
  [tool, analysis].find? (·.title = title)

/-- The names in a section. -/
def names : Section → List String
  | tool =>
    ["LassoUnpack", "FileOutcome", "UnpackConfig", "load_config", "ParseError", "ConfigurationError",
      "LassoUnpackError", "unpack_source"]
  | analysis =>
    ["BundleWalker", "unpack_source", "CallClassifier", "RecordBuilder", "summarize_sizes"]

/-- What is said about a name that is not there. The analysis section quotes the name. -/
def refusal (s : Section) (name : String) : String :=
  let shown := match s with
    | tool => "'" ++ name ++ "'"
    | analysis => Text.quoted name
  "module '" ++ s.title ++ "' has no attribute " ++ shown

/-- Finds a name. -/
def entry (s : Section) (name : String) : Except String String :=
  if s.names.contains name then .ok name else .error (s.refusal name)

variable {s : Section} {name : String}

/-- No two sections have the same title. -/
theorem ofTitle?_eq_some_iff : ofTitle? name = some s ↔ s.title = name := by
  constructor
  · intro h
    rw [ofTitle?] at h
    have htitle := List.find?_some h
    exact of_decide_eq_true htitle
  · rintro rfl
    cases s <;> decide

/-- Exactly the names in a section are found in it. -/
theorem entry_eq_ok_iff {found : String} :
    s.entry name = .ok found ↔ name ∈ s.names ∧ found = name := by
  rw [entry]
  by_cases h : name ∈ s.names <;> simp [h, eq_comm]

/-- A name that is not in a section is told together with the section. -/
theorem entry_eq_error_iff {words : String} :
    s.entry name = .error words ↔ name ∉ s.names ∧ words = s.refusal name := by
  rw [entry]
  by_cases h : name ∈ s.names <;> simp [h, eq_comm]

end Section

end BundleManifest.Catalog
