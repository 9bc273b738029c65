import BundleManifest.Proofs.Manifest
import BundleManifest.Proofs.Report.Line
import BundleManifest.Proofs.Unpacker.Completion
import BundleManifest.Report.Usual
import BundleManifest.Settings.Usual

/-!
# Reports in two formats

A run of the tool reports the outcomes of its files as a list in JSON format or as text. The list is
made of all outcomes at once, and so is the exit status that goes with it. The text is put together
outcome by outcome, and the exit status with it.

Both say the same about the files. What they say is a `Verdict` about each of them, and the verdict is
that of the way in which the processing of the file ended. From a list in JSON format the verdicts are
read back (`ListsVerdicts`); in a text they are the first characters of the status lines
(`ShowsVerdicts`).

The text is told outcome by outcome in a fold, and an outcome that is told changes the lines, the
errors and the status. What the fold has told is stated for any start, so that the induction goes
through (`exists_foldlM_tell`). For the list in JSON format it is enough that the text is read back as
the list of values that was written.

* `exists_foldlM_tell`: what the text and the exit status are after some outcomes;
* `reports_of_processAll`: what is reported in each of the formats;
* `reports_agree`: runs that differ in the format only leave the same disk and the same exit status,
  and report the same files with the same verdicts.
-/

namespace BundleManifest

/-! ## Verdicts -/

/-- What a report says about how it went with a file. -/
inductive Verdict where
  /-- The bundle was decoded, and its manifest is written. -/
  | success
  /-- The bundle has no statements. -/
  | empty
  /-- Something went wrong. -/
  | failure
  deriving DecidableEq, Repr

namespace Verdict

/-- The verdict about a file whose processing ended in some way. -/
def ofEnding : Unpacker.Ending → Verdict
  | .written => success
  | .empty => empty
  | .unreadable | .unwritten => failure

/-- The mark of a status line with a verdict. -/
def level : Verdict → Report.Level
  | success => .success
  | empty => .warning
  | failure => .error

/-- The verdict for whether a file is a success and whether it is empty. Nothing is empty that is no
    success. -/
def ofFlags? : Value → Value → Option Verdict
  | .bool true, .bool false => some success
  | .bool true, .bool true => some empty
  | .bool false, .bool false => some failure
  | _, _ => none

/-- The file that an entry of a list of outcomes is about, and the verdict about it. -/
def ofEntry? (v : Value) : Option (String × Verdict) := do
  let input ← (← v.find? "input").text?
  let verdict ← ofFlags? (← v.find? "success") (← v.find? "empty_input")
  return (input, verdict)

end Verdict

/-- The file that an outcome is about, and the verdict about it. -/
def Outcome.entry (o : Outcome) : String × Verdict :=
  (o.input, .ofEnding (Unpacker.endingOf o))

namespace Unpacker.Ends

variable [Text.Codecs] {u : Unpacker} {d d' : Disk} {path : String} {o : Outcome} {e : Ending}

theorem entry_eq (h : u.Ends d path d' o e) : o.entry = (path, .ofEnding e) := by
  rw [Outcome.entry, h.input_eq, h.eq_endingOf]

/-- The entry of an outcome is read back from its report as a value. -/
theorem ofEntry?_toValue (h : u.Ends d path d' o e) : Verdict.ofEntry? o.toValue = some o.entry := by
  rw [h.entry_eq]
  cases h <;>
    simp [Verdict.ofEntry?, Outcome.toValue, Outcome.success, Outcome.isEmptyInput,
      WalkResult.isEmptyInput,
      Value.record, Value.find?, Value.lookup, Value.sameKey, Value.text?, Verdict.ofFlags?,
      Verdict.ofEnding]

theorem level_eq (h : u.Ends d path d' o e) : CommandLine.level o = o.entry.2.level := by
  rw [h.entry_eq]
  cases h <;> rfl

end Unpacker.Ends

namespace Unpacker

variable [Text.Codecs] {u : Unpacker} {d d' : Disk} {paths : List String} {outcomes : List Outcome}

/-- The outcomes of some files are about these files, in the same order, and their verdicts are those
    of the ways in which the processing of the files ended. -/
theorem entry_of_processAll (h : u.processAll d paths = (d', .ok outcomes)) :
    (outcomes.map Outcome.entry).map Prod.fst = paths ∧
      ∀ k path verdict, (outcomes.map Outcome.entry)[k]? = some (path, verdict) →
        ∃ o e, u.Ends (u.processAll d (paths.take k)).1 path
        (u.processAll d (paths.take (k + 1))).1 o e ∧
          verdict = .ofEnding e := by
  obtain ⟨hlength, hends⟩ := ends_of_processAll h
  have hentry : ∀ k path, paths[k]? = some path →
    ∃ o e, (outcomes.map Outcome.entry)[k]? = some (path, .ofEnding e) ∧
      u.Ends (u.processAll d (paths.take k)).1 path (u.processAll d (paths.take (k + 1))).1 o e := by
    intro k path hk
    obtain ⟨o, e, ho, he⟩ := hends k path hk
    exact ⟨o, e, by rw [List.getElem?_map, ho, Option.map_some, he.entry_eq], he⟩
  have hpaths : (outcomes.map Outcome.entry).map Prod.fst = paths := by
    refine List.ext_getElem? fun k => ?_
    cases hk : paths[k]? with
    | none =>
      rw [List.getElem?_eq_none_iff] at hk ⊢
      rwa [List.length_map, List.length_map, hlength]
    | some path =>
      obtain ⟨o, e, ho, -⟩ := hentry k path hk
      rw [List.getElem?_map, ho, Option.map_some]
  refine ⟨hpaths, fun k path verdict hk => ?_⟩
  obtain ⟨o, e, ho, he⟩ := hentry k path (by rw [← hpaths, List.getElem?_map, hk, Option.map_some])
  rw [hk, Option.some.injEq, Prod.mk.injEq] at ho
  exact ⟨o, e, he, ho.2⟩

end Unpacker

/-- The line of an outcome begins with its file. -/
theorem Outcome.exists_line (o : Outcome) : ∃ words, o.line = o.input ++ ": " ++ words :=
  ⟨_, rfl⟩

/-! ## Lists in JSON format -/

/-- The report of an outcome can be read back once it is written. -/
theorem Outcome.plain_toValue (o : Outcome) : Json.Plain none none o.toValue := by
  have htext (s : Option String) : Json.Plain none none ((s.map Value.text).getD .null) := by
    cases s with
    | none => exact .null
    | some s => exact .text s
  refine .record rfl (by simp) fun field hfield => ?_
  simp only [List.mem_cons, List.not_mem_nil, or_false] at hfield
  obtain rfl | rfl | rfl | rfl | rfl | rfl := hfield
  · exact .text _
  · exact .bool _
  · exact .bool _
  · exact .int rfl
  · exact htext _
  · exact htext _

namespace CommandLine

variable {d d' : Disk} {env : Environment} {a : Arguments} {o : Outcome} {outcomes : List Outcome}
  {entries : List (String × Verdict)} {words words' : List String}

/-- A text in JSON format is a list with one entry for each file, in order, with the verdict about
    it. -/
def ListsVerdicts (out : String) (entries : List (String × Verdict)) : Prop :=
  ∃ values, Json.read out.toList none = .ok (.list values) ∧
  values.map Verdict.ofEntry? = entries.map some

/-- The list of outcomes can be read back. -/
theorem read_jsonReport (outcomes : List Outcome) :
    Json.read (jsonReport outcomes).out.toList none = .ok (.list (outcomes.map Outcome.toValue)) := by
  have hblank : Json.Layout.Blank { indent := some [' ', ' '] } := Manifest.blank_spaces (some 2)
  rw [jsonReport, String.toList_ofList]
  refine Json.read_write hblank (Manifest.suits_spaces (some 2)) (.list rfl fun v hv => ?_)
    (List.forall_mem_singleton.2 rfl)
  obtain ⟨o, -, rfl⟩ := List.mem_map.1 hv
  exact o.plain_toValue

/-- The JSON report lists the entries of the outcomes, in their order. -/
theorem listsVerdicts_jsonReport (h : ∀ o ∈ outcomes, Verdict.ofEntry? o.toValue = some o.entry) :
    ListsVerdicts (jsonReport outcomes).out (outcomes.map Outcome.entry) := by
  refine ⟨_, read_jsonReport outcomes, ?_⟩
  rw [List.map_map, List.map_map]
  exact List.map_congr_left h

/-- The status is zero exactly if every outcome is a success. -/
theorem status_eq_zero_iff : status outcomes = 0 ↔ ∀ o ∈ outcomes, o.success = true := by
  rw [status]
  split
  · next h => exact iff_of_true rfl (List.all_eq_true.1 h)
  · next h => exact iff_of_false Nat.one_ne_zero fun hall => h (List.all_eq_true.2 hall)

/-! ## Text -/

section

variable [Report.Console]

/-- A text is made of status lines, one for each file, in order. Each begins with the mark of the
    verdict about the file, and its message begins with the file. -/
def ShowsVerdicts (rich : Bool) (out : String) (entries : List (String × Verdict)) : Prop :=
  ∃ lines : List String, out = String.join lines ∧
    List.Forall₂ (fun entry line => line.toList.head? = some entry.2.level.mark ∧
      ∃ words, Report.statusLine rich entry.2.level (entry.1 ++ ": " ++ words) = .ok line)
      entries lines

/-- Without a table, the lines of an outcome are its status line. -/
theorem reportLines_eq (h : a.summary = false) (o : Outcome) :
    reportLines a o = Report.statusLine (!a.noRich) (level o) o.line := by
  rw [reportLines, h]
  cases Report.statusLine (!a.noRich) (level o) o.line <;> rfl

/-- One outcome adds its status line to the text, and is remembered in the exit status if it is no
    success. -/
theorem exists_tell (hsummary : a.summary = false)
    (hresult : o.success = true → o.result.isSome = true) (e : Exit) :
    ∃ lines, Report.statusLine (!a.noRich) (level o) o.line = .ok lines ∧
      tell a e o =
        .ok { e with status := if o.success then e.status else 1, out := e.out ++ lines } := by
  obtain ⟨lines, hlines⟩ := Report.exists_statusLine (!a.noRich) (level o) o.line
  refine ⟨lines, hlines, ?_⟩
  have hexpected : ¬(o.success && o.result.isNone) = true := by
    rw [Bool.and_eq_true, Option.isNone_iff_eq_none]
    rintro ⟨hsuccess, hnone⟩
    have := hresult hsuccess
    rw [hnone] at this
    cases this
  rw [tell, if_neg hexpected, reportLines_eq hsummary, hlines]
  rfl

/-- After some outcomes, the text has their status lines, and the exit status is as before if they are
    successes. -/
theorem exists_foldlM_tell (hsummary : a.summary = false)
    (hresult : ∀ o ∈ outcomes, o.success = true → o.result.isSome = true) (e : Exit) :
    ∃ lines, List.Forall₂ (fun o line => Report.statusLine (!a.noRich) (level o) o.line = .ok line)
    outcomes lines ∧
      outcomes.foldlM (tell a) e =
        .ok { e with
          status := if outcomes.all (·.success) then e.status else 1
          out := e.out ++ String.join lines } := by
  induction outcomes generalizing e with
  | nil =>
    refine ⟨[], .nil, ?_⟩
    rw [String.join_nil, String.append_empty]
    rfl
  | cons o outcomes ih =>
    obtain ⟨hfirst, hrest⟩ := List.forall_mem_cons.1 hresult
    obtain ⟨line, hline, htell⟩ := exists_tell hsummary hfirst e
    obtain ⟨lines, hlines, hfold⟩ := ih hrest { e with
      status := if o.success then e.status else 1
      out := e.out ++ line }
    refine ⟨line :: lines, .cons hline hlines, ?_⟩
    rw [List.foldlM_cons, htell]
    refine hfold.trans ?_
    -- The exit status stays one after an outcome that is no success.
    have hstatus : (if outcomes.all (·.success) then if o.success then e.status else 1 else 1) =
        if (o :: outcomes).all (·.success) then e.status else 1 := by
      rw [List.all_cons]
      cases o.success <;> simp
    rw [String.join_cons, ← String.append_assoc]
    exact congrArg
      (fun status => Except.ok { e with status, out := e.out ++ line ++ String.join lines }) hstatus

/-- The text about some outcomes is made of status lines with their verdicts. -/
theorem exists_textReport (hsummary : a.summary = false)
    (hresult : ∀ o ∈ outcomes, o.success = true → o.result.isSome = true)
    (hlevel : ∀ o ∈ outcomes, level o = o.entry.2.level) :
    ∃ exit, textReport a outcomes = .ok exit ∧ exit.status = status outcomes ∧
      ShowsVerdicts (!a.noRich) exit.out (outcomes.map Outcome.entry) := by
  obtain ⟨lines, hlines, hfold⟩ := exists_foldlM_tell hsummary hresult { status := 0 }
  refine ⟨_, hfold, rfl, lines, String.empty_append, List.forall₂_map_left_iff.2 ?_⟩
  refine ((List.forall₂_and_left _ _).2 ⟨hlevel, hlines⟩).imp fun o line h => ?_
  obtain ⟨hmark, hline⟩ := h
  obtain ⟨words, hwords⟩ := o.exists_line
  rw [← hmark]
  refine ⟨Report.head?_statusLine hline, words, ?_⟩
  rw [← hline, hwords]
  rfl

/-! ## Runs -/

variable [Text.Codecs]

/-- What is reported about the outcomes of some files, in each of the formats. -/
theorem reports_of_processAll {u : Unpacker} {paths : List String}
    (h : u.processAll d paths = (d', .ok outcomes)) (hsummary : a.summary = false) :
    ListsVerdicts (jsonReport outcomes).out (outcomes.map Outcome.entry) ∧
      ∃ exit, textReport a outcomes = .ok exit ∧ exit.status = status outcomes ∧
        ShowsVerdicts (!a.noRich) exit.out (outcomes.map Outcome.entry) := by
  refine ⟨listsVerdicts_jsonReport fun o ho => ?_,
    exists_textReport hsummary (fun o ho => ?_) fun o ho => ?_⟩ <;>
  obtain ⟨before, path, after, e, he⟩ := Unpacker.exists_ends_of_mem h ho
  · exact he.ofEntry?_toValue
  · exact he.result_isSome
  · exact he.level_eq

variable [Settings.Host]

theorem run_eq (h : parse words = .ok (.run a)) : run d env words = execute d env a := by
  rw [run, h]

/-- The exit status of a run whose settings cannot be loaded, if it has one. -/
def statusOfProblem : Problem → Except Problem Nat
  | .settings _ => .ok 1
  | p => .error p

/-- Settings with a problem leave the disk alone, and the status tells the problem. -/
theorem execute_of_error {p : Problem} (hs : settings d env a = .error p) (hinputs : a.inputs ≠ []) :
    (execute d env a).1 = d ∧ (execute d env a).2.map Exit.status = statusOfProblem p := by
  rw [execute, if_neg (by simpa using hinputs), hs]
  cases p with
  | settings fault =>
    obtain ⟨lines, hlines⟩ :=
      Report.exists_statusLine (!a.noRich) .error ("Configuration error: " ++ fault.message)
    dsimp only
    rw [settingsReport, hlines]
    exact ⟨rfl, rfl⟩
  | _ => exact ⟨rfl, rfl⟩

/-- Two command lines that ask for the same with at least one file, but for a report in JSON format
    and for one as text without tables, leave the same disk and the same exit status, if no file stops
    the processing. The exit status is zero exactly if the settings can be loaded and every file is a
    success. If the settings can be loaded, both report every file once, in the order of the command
    line, with the same verdict: that of the way in which the processing of the file ended. -/
theorem reports_agree (hjson : parse words = .ok (.run { a with format := .json }))
    (htext : parse words' = .ok (.run { a with format := .text, summary := false }))
    (hinputs : a.inputs ≠ [])
    (hprocess : ∀ s, settings d env a = .ok s → ∀ k path, a.inputs[k]? = some path →
      ∃ o, ((Unpacker.ofSettings s).process
        ((Unpacker.ofSettings s).processAll d (a.inputs.take k)).1 path).2 = .ok o) :
    (run d env words).1 = (run d env words').1 ∧
    (run d env words).2.map Exit.status = (run d env words').2.map Exit.status ∧
    ((run d env words).2.map Exit.status = .ok 0 ↔ ∃ s outcomes, settings d env a = .ok s ∧
      ((Unpacker.ofSettings s).processAll d a.inputs).2 = .ok outcomes ∧
      ∀ o ∈ outcomes, o.success = true) ∧
    ∀ s, settings d env a = .ok s →
      let before (k : Nat) : Disk := ((Unpacker.ofSettings s).processAll d (a.inputs.take k)).1
      ∃ exit exit' entries, (run d env words).2 = .ok exit ∧ (run d env words').2 = .ok exit' ∧
        entries.map Prod.fst = a.inputs ∧ ListsVerdicts exit.out entries ∧
        ShowsVerdicts (!a.noRich) exit'.out entries ∧
        ∀ k path verdict, entries[k]? = some (path, verdict) →
          ∃ o e, (Unpacker.ofSettings s).Ends (before k) path (before (k + 1)) o e ∧
            verdict = .ofEnding e := by
  rw [run_eq hjson, run_eq htext]
  -- The settings do not depend on the format.
  cases hs : settings d env a with
  | error p =>
    obtain ⟨hdisk, hstatus⟩ := execute_of_error (a := { a with format := .json }) hs hinputs
    obtain ⟨hdisk', hstatus'⟩ :=
      execute_of_error (a := { a with format := .text, summary := false }) hs hinputs
    rw [hdisk, hdisk', hstatus, hstatus']
    refine ⟨rfl, rfl, iff_of_false ?_ (by simp), by simp⟩
    cases p <;> simp [statusOfProblem]
  | ok s =>
    obtain ⟨outcomes, houtcomes⟩ := Unpacker.exists_outcomes_iff.2 (hprocess s hs)
    obtain ⟨d', hall⟩ : ∃ d', (Unpacker.ofSettings s).processAll d a.inputs = (d', .ok outcomes) :=
      ⟨_, Prod.ext rfl houtcomes⟩
    obtain ⟨hlists, exit', hexit', hstatus', hshows⟩ :=
      reports_of_processAll (a := { a with format := .text, summary := false }) hall rfl
    have hrun : execute d env { a with format := .json } = (d', .ok (jsonReport outcomes)) :=
      Unpacker.execute_eq hs hinputs hall
    have hrun' : execute d env { a with format := .text, summary := false } = (d', .ok exit') :=
      (Unpacker.execute_eq (a := { a with format := .text, summary := false }) hs hinputs hall).trans
        (congrArg (d', ·) hexit')
    obtain ⟨hpaths, hverdicts⟩ := Unpacker.entry_of_processAll hall
    rw [hrun, hrun']
    refine ⟨rfl, congrArg Except.ok hstatus'.symm, ?_, ?_⟩
    · have hzero : (Except.ok (jsonReport outcomes) : Except Problem Exit).map Exit.status = .ok 0 ↔
          status outcomes = 0 :=
        iff_of_eq (Except.ok.injEq (status outcomes) 0)
      rw [hzero, status_eq_zero_iff]
      constructor
      · intro h
        exact ⟨s, outcomes, rfl, houtcomes, h⟩
      · rintro ⟨s', others, hs', hothers, h⟩
        obtain rfl := Except.ok.inj hs'
        obtain rfl := Except.ok.inj (houtcomes.symm.trans hothers)
        exact h
    · rintro s' hs'
      obtain rfl := Except.ok.inj hs'
      exact ⟨_, exit', _, rfl, rfl, hpaths, hlists, hshows, hverdicts⟩

end

/-! ## A mixture -/

open scoped Usual

namespace Mixture

/-- The files to report: a bundle with statements, one without any, a file that is missing, and the
    first one again. -/
def files : List String := ["good.js", "empty.js", "none.js", "good.js"]

/-- What is asked for. -/
def arguments : Arguments where
  inputs := files
  noRich := true

/-- A disk with the two bundles. -/
def disk : Disk where
  entries := [(["good.js"], .file (Utf8.encode "m.run()".toList)), (["empty.js"], .file [])]

theorem parse_json : parse ("--format" :: "json" :: "--no-rich" :: files) =
    .ok (.run { arguments with format := .json }) := by
  decide +kernel

theorem parse_text : parse ("--no-rich" :: files) =
    .ok (.run { arguments with format := .text, summary := false }) := by
  decide +kernel

theorem settings_eq : settings disk [] arguments = .ok {} :=
  rfl

theorem success_of_files : (((Unpacker.ofSettings {}).processAll disk files).2.map fun outcomes =>
    outcomes.map Outcome.success) = .ok [true, true, false, true] := by
  decide +kernel

end Mixture

open Mixture in
/-- No file stops the processing. The exit status is not zero because of the missing file, in both
    formats, and both report the four files. -/
theorem reports_agree_of_mixture :
    let words := "--format" :: "json" :: "--no-rich" :: files
    let words' := "--no-rich" :: files
    parse words = .ok (.run { arguments with format := .json }) ∧
      parse words' = .ok (.run { arguments with format := .text, summary := false }) ∧
      (∀ s, settings disk [] arguments = .ok s → ∀ k path, files[k]? = some path →
        ∃ o, ((Unpacker.ofSettings s).process
          ((Unpacker.ofSettings s).processAll disk (files.take k)).1 path).2 =
          .ok o) ∧
      (run disk [] words).1 = (run disk [] words').1 ∧
      (run disk [] words).2.map Exit.status ≠ .ok 0 ∧ (run disk [] words').2.map Exit.status ≠ .ok 0 ∧
      ∃ exit exit' entries, (run disk [] words).2 = .ok exit ∧ (run disk [] words').2 = .ok exit' ∧
        entries.map Prod.fst = files ∧ ListsVerdicts exit.out entries ∧
          ShowsVerdicts false exit'.out entries := by
  intro words words'
  obtain ⟨outcomes, houtcomes, hsuccess⟩ : ∃ outcomes,
      ((Unpacker.ofSettings {}).processAll disk files).2 = .ok outcomes ∧
        outcomes.map Outcome.success = [true, true, false, true] := by
    have hfiles := success_of_files
    cases houtcomes : ((Unpacker.ofSettings {}).processAll disk files).2 with
    | error p =>
      rw [houtcomes] at hfiles
      cases hfiles
    | ok outcomes =>
      rw [houtcomes] at hfiles
      exact ⟨outcomes, rfl, Except.ok.inj hfiles⟩
  have hprocess : ∀ s, settings disk [] arguments = .ok s → ∀ k path, files[k]? = some path →
      ∃ o, ((Unpacker.ofSettings s).process
        ((Unpacker.ofSettings s).processAll disk (files.take k)).1 path).2 = .ok o := by
    intro s hs
    obtain rfl := Except.ok.inj (settings_eq.symm.trans hs)
    exact Unpacker.exists_outcomes_iff.1 ⟨outcomes, houtcomes⟩
  obtain ⟨hdisk, hstatus, hzero, hreport⟩ := reports_agree parse_json parse_text (by decide) hprocess
  have hfailed : (run disk [] words).2.map Exit.status ≠ .ok 0 := fun h => by
    obtain ⟨s, others, hs, hothers, hall⟩ := hzero.1 h
    obtain rfl := Except.ok.inj (settings_eq.symm.trans hs)
    obtain rfl := Except.ok.inj (houtcomes.symm.trans hothers)
    have hfalse : false ∈ outcomes.map Outcome.success := by rw [hsuccess]; decide
    obtain ⟨o, ho, hfalse⟩ := List.mem_map.1 hfalse
    rw [hall o ho] at hfalse
    cases hfalse
  obtain ⟨exit, exit', entries, hexit, hexit', hpaths, hlists, hshows, -⟩ := hreport {} settings_eq
  exact ⟨parse_json, parse_text, hprocess, hdisk, hfailed, hstatus ▸ hfailed, exit, exit', entries,
    hexit, hexit', hpaths, hlists, hshows⟩

end CommandLine

end BundleManifest
