import BundleManifest.CommandLine.Switch
import BundleManifest.Text.Digit
import BundleManifest.Text.Quoted

/-!
# Arguments

The words of the command line are sorted into switches and operands before anything is done. A switch
may be shortened as long as only one switch has a name that begins so. Its value is the next word, or
is attached: behind an equals sign, or directly to a name of one letter. Names of one letter can be
put together.

Operands are the files to process. All of them have to stand together; operands that come later are
not recognized, and neither are unknown switches. Behind the word `--` there are only operands.
-/

namespace BundleManifest.CommandLine

/-- How outcomes are reported. -/
inductive ReportFormat where
  | text
  | json
  deriving DecidableEq, Repr

/-- What the command line asks for. -/
structure Arguments where
  /-- The files to process. -/
  inputs : List String := []
  /-- The settings file. -/
  config : Option String := none
  /-- The directory of manifests. -/
  outputDir : Option String := none
  /-- The name of manifests. -/
  manifestName : Option String := none
  /-- The receiver of the calls that count. -/
  receiver : Option String := none
  /-- Whether progress is told. -/
  verbose : Bool := false
  /-- Whether the bodies of modules are left out. -/
  noContent : Bool := false
  /-- Whether the sizes of packages are told. -/
  summary : Bool := false
  /-- Whether status lines are written without markup. -/
  noRich : Bool := false
  /-- How outcomes are reported. -/
  format : ReportFormat := .text
  deriving DecidableEq, Repr, Inhabited

/-- What is to be done. -/
inductive Command where
  | run (arguments : Arguments)
  | help
  | version
  deriving DecidableEq, Repr

/-- Why a command line is refused. -/
inductive UsageError where
  /-- A shortened switch stands for several switches. -/
  | ambiguous (word : String) (names : List String)
  /-- A switch without a value has one. -/
  | ignoredValue (switch : Switch) (value : String)
  /-- A switch has no value. -/
  | missingValue (switch : Switch)
  /-- The value of a switch is none of some choices. -/
  | badChoice (switch : Switch) (value : String) (choices : List String)
  /-- Some words are not recognized. -/
  | unrecognized (words : List String)
  deriving DecidableEq, Repr

/-- Why a command line is refused, in words. -/
def UsageError.message : UsageError → String
  | ambiguous word names => "ambiguous option: " ++ word ++ " could match " ++ ", ".intercalate names
  | ignoredValue switch value =>
    "argument " ++ switch.label ++ ": ignored explicit argument " ++ Text.quoted value
  | missingValue switch => "argument " ++ switch.label ++ ": expected one argument"
  | badChoice switch value choices =>
    "argument " ++ switch.label ++ ": invalid choice: " ++ Text.quoted value ++ " (choose from "
      ++ ", ".intercalate (choices.map Text.quoted) ++ ")"
  | unrecognized words => "unrecognized arguments: " ++ " ".intercalate words

/-! ## Words -/

/-- A value that is attached to a switch: whether there is an equals sign, and the value. -/
structure Attached where
  hasMark : Bool
  value : String
  deriving DecidableEq, Repr

/-- A word of the command line. -/
inductive Word where
  /-- A file to process, or the value of a switch. -/
  | operand (word : String)
  /-- The word behind which there are only operands. -/
  | separator
  /-- A switch under a name. -/
  | switch (switch : Switch) (name : String) (attached : Option Attached)
  /-- A word that looks like a switch and is none. -/
  | unknown (word : String)
  deriving DecidableEq, Repr

/-- The word behind which there are only operands. -/
def separatorWord : String := "--"

/-- Cuts a word at its first equals sign. -/
def cutAtMark (word : String) : String × Option String :=
  let name := word.toList.takeWhile (· ≠ '=')
  match word.toList.drop name.length with
  | [] => (word, none)
  | _ :: value => (String.ofList name, some (String.ofList value))

/-- The switches that a shortened or combined word may stand for. -/
def candidates (word : String) : List (Switch × String × Option Attached) :=
  if word.startsWith "--" then
    let (name, value) := cutAtMark word
    let attached := value.map fun v => ⟨true, v⟩
    (Switch.table.filter fun (n, _) => n.startsWith name).map fun (n, s) => (s, n, attached)
  else
    let short := String.ofList (word.toList.take 2)
    Switch.table.filterMap fun (n, s) =>
      if n = short then some (s, n, some ⟨false, String.ofList (word.toList.drop 2)⟩)
      else if n.startsWith word then some (s, n, none)
      else none

/-- Whether a word is a negative number. A line end behind it does not count. -/
def isNegativeNumber (word : String) : Bool :=
  let isDigit (c : Char) : Bool := (Text.digit? c).isSome
  match word.toList with
  | '-' :: rest =>
    let body := if rest.getLast? = some '\n' then rest.dropLast else rest
    let whole := body.takeWhile isDigit
    match body.drop whole.length with
    | [] => !whole.isEmpty
    | '.' :: fraction => !fraction.isEmpty && fraction.all isDigit
    | _ => false
  | _ => false

/-- What a word is that stands before the separator. -/
def classify (word : String) : Except UsageError Word :=
  if !word.startsWith "-" then .ok (.operand word)
  else
    match Switch.ofName? word with
    | some s => .ok (.switch s word none)
    | none =>
      if word.length = 1 then .ok (.operand word)
      else
        let (name, value) := cutAtMark word
        match Switch.ofName? name, value with
        | some s, some v => .ok (.switch s name (some ⟨true, v⟩))
        | _, _ =>
          match candidates word with
          | [] =>
            if isNegativeNumber word || word.toList.contains ' ' then .ok (.operand word)
            else .ok (.unknown word)
          | [(s, n, attached)] => .ok (.switch s n attached)
          | several => .error (.ambiguous word (several.map (·.2.1)))

/-- What the words are. -/
def classifyAll : List String → Except UsageError (List Word)
  | [] => .ok []
  | word :: rest =>
    if word = separatorWord then .ok (.separator :: rest.map .operand)
    else do return (← classify word) :: (← classifyAll rest)

/-- The text of a word that is no switch. -/
def Word.text : Word → String
  | operand word => word
  | separator => separatorWord
  | switch _ name _ => name
  | unknown word => word

/-- Whether a word is an operand or the separator. -/
def Word.isOperand : Word → Bool
  | operand _ | separator => true
  | switch _ _ _ | unknown _ => false

/-! ## Reading the words -/

/-- The names of the formats of reports. -/
def reportFormats : List (String × ReportFormat) :=
  [("text", .text), ("json", .json)]

/-- The arguments after a switch, or what is to be done at once. -/
def apply (a : Arguments) (s : Switch) (value : String) : Except UsageError (Arguments ⊕ Command) :=
  match s with
  | .help => .ok (.inr .help)
  | .version => .ok (.inr .version)
  | .config => .ok (.inl { a with config := some value })
  | .verbose => .ok (.inl { a with verbose := true })
  | .outputDir => .ok (.inl { a with outputDir := some value })
  | .manifestName => .ok (.inl { a with manifestName := some value })
  | .receiver => .ok (.inl { a with receiver := some value })
  | .noContent => .ok (.inl { a with noContent := true })
  | .summary => .ok (.inl { a with summary := true })
  | .noRich => .ok (.inl { a with noRich := true })
  | .format =>
    match reportFormats.lookup value with
    | some f => .ok (.inl { a with format := f })
    | none => .error (.badChoice s value (reportFormats.map (·.1)))

/-- The arguments after some switches. -/
def applyAll (a : Arguments) : List (Switch × String) → Except UsageError (Arguments ⊕ Command)
  | [] => .ok (.inl a)
  | (s, value) :: rest => do
    match ← apply a s value with
    | .inl a => applyAll a rest
    | .inr c => return .inr c

/-- What is read from one word: switches with their values, a rest that is not recognized, and whether
    the last switch still needs a value. -/
structure Reading where
  switches : List (Switch × String) := []
  extra : Option String := none
  pending : Option Switch := none

/-- Reads a switch with what is attached to it. A switch of one letter without a value can have more
    of them attached. -/
def readAttached : Nat → Switch → String → Option Attached → Except UsageError Reading
  | _, s, _, none =>
    if s.hasValue then .ok { pending := some s } else .ok { switches := [(s, "")] }
  | 0, s, _, some a => .error (.ignoredValue s a.value)
  | fuel + 1, s, name, some a =>
    if s.hasValue then .ok { switches := [(s, a.value)] }
    else
      match a.value.toList with
      | [] => .error (.ignoredValue s a.value)
      | c :: rest =>
        if name.startsWith "--" || a.hasMark || c = '-' then .error (.ignoredValue s a.value)
        else
          let nextName := String.ofList ['-', c]
          match Switch.ofName? nextName with
          | none => .ok { switches := [(s, "")], extra := some ("-" ++ a.value) }
          | some next => do
            let attached : Option Attached := match rest with
              | [] => none
              | '=' :: value => some ⟨true, String.ofList value⟩
              | value => some ⟨false, String.ofList value⟩
            let r ← readAttached fuel next nextName attached
            return { r with switches := (s, "") :: r.switches }

/-- The texts of operands, without the first separator. -/
def operandTexts (words : List Word) : List String :=
  (words.map Word.text).erase separatorWord

/-- Reads words, given the words that are not recognized so far, and whether the operands have been
    read. -/
def readWords (a : Arguments) (extras : List String) (hasOperands : Bool) :
    List Word → Except UsageError Command
  | [] => if extras.isEmpty then .ok (.run a) else .error (.unrecognized extras)
  | .unknown word :: rest => readWords a (extras ++ [word]) hasOperands rest
  | .switch s name attached :: rest => do
    let r ← readAttached (name.length + (attached.map (·.value.length)).getD 0) s name attached
    let extras := extras ++ r.extra.toList
    match r.pending, _rest : rest with
    | none, _ =>
      match ← applyAll a r.switches with
      | .inl a => readWords a extras hasOperands rest
      | .inr c => return c
    | some s, .operand value :: behind =>
      match ← applyAll a (r.switches ++ [(s, value)]) with
      | .inl a => readWords a extras hasOperands behind
      | .inr c => return c
    | some s, _ => .error (.missingValue s)
  | w :: rest =>
    let run := w :: rest.takeWhile Word.isOperand
    let behind := rest.dropWhile Word.isOperand
    if hasOperands then readWords a (extras ++ run.map Word.text) true behind
    else readWords { a with inputs := operandTexts run } extras true behind
  termination_by words => words.length
  decreasing_by
    · simp
    · simp [_rest]
    · simp only [List.length_cons]
      omega
    all_goals
      have := (List.dropWhile_sublist Word.isOperand (l := rest)).length_le
      simp only [List.length_cons]
      omega

/-- Reads the words of a command line. -/
def parse (words : List String) : Except UsageError Command := do
  readWords {} [] false (← classifyAll words)

end BundleManifest.CommandLine
