import BundleManifest.Proofs.Disk.Directories
import BundleManifest.Unpacker

/-!
# How the processing of a file ends

Processing a file ends in one of four ways, and the outcome tells which. The disk is only changed in
two of them, and then only at the place of the manifest and above it:

| ending       | the outcome has               | the disk                                          |
|--------------|-------------------------------|---------------------------------------------------|
| `unreadable` | an error                      | is unchanged                                      |
| `empty`      | a result without records      | is unchanged                                      |
| `written`    | a result and a manifest       | has the manifest and the directories above it     |
| `unwritten`  | a result and an error         | has perhaps directories for the manifest          |

The outcome is an index of `Ends`, so that each case says which outcome goes with it, and the ending
can be read off the outcome (`endingOf`). For several files the disk between two of them is named, and
the endings are chained from the first disk to the last (`processAll_cons`).

* `Unpacker.Ends`: the four endings;
* `exists_ends`: processing a file ends in one of them;
* `Ends.eq_endingOf`: the outcome tells which;
* `outcome_ends`: both together, with what they mean for the outcomes of several files.
-/

namespace BundleManifest

namespace OutputSettings

/-- A manifest has the name of manifests, in some directory. -/
theorem exists_join_of_manifestPath {s : OutputSettings} {home : Place} {path name : String}
    {target : Path}
    (hname : s.manifestName = .text name) (h : s.manifestPath home path = .ok target) :
    ∃ directory : Path, directory.Proper ∧ target = directory.join name := by
  have hresolve : ((Path.ofText path).resolve home).parent.Proper := fun hroot => by
    simp [Path.resolve, Path.parent] at hroot
  simp only [manifestPath, hname, bind, Except.bind, pure, Except.pure] at h
  repeat' split at h
  all_goals cases h
  · exact ⟨_, Path.proper_ofText _, rfl⟩
  · exact ⟨_, hresolve, rfl⟩

/-- The path of a manifest is proper, wherever it goes. -/
theorem proper_of_manifestPath {s : OutputSettings} {home : Place} {path : String} {target : Path}
    (h : s.manifestPath home path = .ok target) : target.Proper := by
  cases hname : s.manifestName with
  | text name =>
    obtain ⟨directory, hproper, rfl⟩ := exists_join_of_manifestPath hname h
    exact hproper.join name
  | _ =>
    simp only [manifestPath, hname, bind, Except.bind] at h
    repeat' split at h
    all_goals cases h

end OutputSettings

namespace Unpacker

variable {u : Unpacker} {d d' : Disk} {path : String} {o : Outcome} {b : Bundle} {target : Path}
  {records : List Record}

/-! ## Writing -/

/-- The file at a place is the manifest of some records. -/
def HasManifest (u : Unpacker) (d : Disk) (place : Place) (records : List Record) : Prop :=
  ∃ indent, u.output.indentation = .ok indent ∧
    d.get? place = some (.file (Utf8.encode (Manifest.text indent records).toList))

/-- The manifest of some records was put at `place`, which `target` leads to, and nothing else changed
    but that directories were made that enclose it. -/
structure Writes (u : Unpacker) (d d' : Disk) (target : Path) (place : Place)
    (records : List Record) :
    Prop where
  keeps : d.Keeps d'
  locate : d'.locate target.text = .ok place
  manifest : u.HasManifest d' place records
  above : ∀ q : Path, q.Encloses target.parent → d'.hasDirectory q.text = true
  frame : ∀ other, other ≠ place → d.StaysOrMade d' target.parent other

/-- A write after the directories were made. -/
theorem writes_of_write {made : Disk} {indent : Option (List Char)} (htarget : target.Proper)
    (hbuilt : d.Built made target.parent) (hthere : made.hasDirectory target.parent.text = true)
    (hindent : u.output.indentation = .ok indent)
    (h : made.write target.text (Utf8.encode (Manifest.text indent records).toList) = .ok d') :
    ∃ place, u.Writes d d' target place records := by
  obtain ⟨place, hlocate, hfree, rfl⟩ := Disk.exists_put_of_write h
  have hput := Disk.get?_put made (Disk.ne_root_of_get? hfree)
    (.file (Utf8.encode (Manifest.text indent records).toList))
  have hkeeps := Disk.keeps_put hfree (.file (Utf8.encode (Manifest.text indent records).toList))
  refine ⟨place, hbuilt.keeps.trans hkeeps, hkeeps.locate hlocate, ⟨indent, hindent, by simp [hput]⟩,
    fun q hq => hkeeps.hasDirectory (Disk.hasDirectory_of_encloses htarget.parent hthere hq),
    fun other hother => ?_⟩
  -- Away from the file, the disk is as it was after the directories were made.
  rcases hbuilt.change other with hsame | ⟨hnone, hmade, q, hq, hpath⟩
  · exact .inl (by simp [hput, hother, hsame])
  · exact .inr ⟨hnone, by simp [hput, hother, hmade], q, hq, hkeeps.locate hpath⟩

/-- A manifest that was written is at the place to which its path leads. -/
theorem exists_writes (htarget : target.Proper)
    (h : u.writeManifest d target records = (d', .ok ())) :
    ∃ place, u.Writes d d' target place records := by
  rw [writeManifest] at h
  split at h
  · cases h
  · next made hmake =>
    obtain ⟨hbuilt, hthere⟩ := Disk.makeDirectories_built hmake
    split at h
    · cases h
    · next indent hindent =>
      split at h
      · cases h
      · next written hwrite =>
        obtain rfl : written = d' := (Prod.mk.inj h).1
        exact writes_of_write htarget hbuilt (hthere rfl) hindent hwrite

/-- When a manifest cannot be written, nothing changed but that directories were made for it. -/
theorem built_of_writeManifest {p : Problem} (h : u.writeManifest d target records = (d', .error p)) :
    d.Built d' target.parent := by
  rw [writeManifest] at h
  split at h
  · next made _ hmake =>
    obtain rfl : made = d' := (Prod.mk.inj h).1
    exact (Disk.makeDirectories_built hmake).1
  · next made hmake =>
    have hbuilt := (Disk.makeDirectories_built hmake).1
    repeat' split at h
    all_goals
      obtain ⟨rfl, hp⟩ := Prod.mk.inj h
      first | exact hbuilt | cases hp

/-! ## Reading -/

/-- A bundle with statements is walked, whether or not records are found. -/
theorem walk_of_statementCount (w : Walker) (hcount : b.statementCount ≠ 0) :
    w.walk b = { status := .ok, records := w.records b } := by
  rw [Walker.walk, if_neg hcount]

section

variable [Text.Codecs]

/-- The file at a path is a text of the bundle `b`. -/
def Reads (u : Unpacker) (d : Disk) (path : String) (b : Bundle) : Prop :=
  ∃ text, u.output.decode (d.read (Path.ofText path).text) = .ok text ∧ Bundle.ofText text = .ok b

/-- A file is decoded if it is a text of a bundle, and then by a walk over the bundle. -/
theorem unpackFile_eq_ok_iff {result : WalkResult} :
    u.unpackFile d path = .ok result ↔ ∃ b, u.Reads d path b ∧ u.walker.walk b = result := by
  simp only [unpackFile, unpackText, Reads, bind, Except.bind]
  cases u.output.decode (d.read (Path.ofText path).text) with
  | error p => simp
  | ok text => cases hbundle : Bundle.ofText text <;> simp [Except.map, Except.mapError, hbundle]

/-! ## Processing -/

/-- The ways in which the processing of a file ends. -/
inductive Ending where
  /-- The file cannot be read, or is no script. -/
  | unreadable
  /-- The bundle has no statements. -/
  | empty
  /-- The manifest is written. -/
  | written
  /-- The manifest cannot be written. -/
  | unwritten
  deriving DecidableEq, Repr

/-- The processing of the file at `path`, on the disk `d`, leaves a disk and an outcome, and ends in
    some way. -/
inductive Ends (u : Unpacker) (d : Disk) (path : String) : Disk → Outcome → Ending → Prop
  | unreadable {p : Problem} {words : String} (hread : ∀ b, ¬ u.Reads d path b)
      (hproblem : u.unpackFile d path = .error p) (hwords : bundleFault? p = some words) :
      Ends u d path d { input := path, error := some words } .unreadable
  | empty {b : Bundle} (hread : u.Reads d path b) (hcount : b.statementCount = 0) :
      Ends u d path d
      { input := path, result := some { status := .emptyInput, records := [] } } .empty
  | written {b : Bundle} {target : Path} {place : Place} {d' : Disk} (hread : u.Reads d path b)
      (hcount : b.statementCount ≠ 0) (htarget : u.output.manifestPath d.home path = .ok target)
      (hwrites : u.Writes d d' target place (u.walker.records b)) :
      Ends u d path d'
        { input := path, result := some { status := .ok, records := u.walker.records b }
          manifest := some target.text } .written
  | unwritten {b : Bundle} {target : Path} {d' : Disk} {p : Problem} {words : String}
      (hread : u.Reads d path b) (hcount : b.statementCount ≠ 0)
      (htarget : u.output.manifestPath d.home path = .ok target)
      (hproblem : u.writeManifest d target (u.walker.records b) = (d', .error p))
      (hwords : bundleFault? p = some words) (hbuilt : d.Built d' target.parent) :
      Ends u d path d'
        { input := path, result := some { status := .ok, records := u.walker.records b }
          error := some words } .unwritten

/-- The ending that an outcome tells. -/
def endingOf (o : Outcome) : Ending :=
  match o.result, o.error with
  | none, _ => .unreadable
  | some _, some _ => .unwritten
  | some result, none => if result.isEmptyInput then .empty else .written

theorem Ends.eq_endingOf {e : Ending} (h : u.Ends d path d' o e) : e = endingOf o := by
  cases h <;> rfl

/-- Whatever becomes of a file, the disk is only changed by the attempt to write its manifest. -/
theorem process_fst (u : Unpacker) (d : Disk) (path : String) : (u.process d path).1 = d ∨
    ∃ target records, u.output.manifestPath d.home path = .ok target ∧
      (u.process d path).1 = (u.writeManifest d target records).1 := by
  rw [process]
  split
  · split <;> exact .inl rfl
  · next result _ =>
    split
    · exact .inl rfl
    split
    · exact .inl rfl
    · next target htarget =>
      refine .inr ⟨target, result.records, htarget, ?_⟩
      split
      · next hwrite => rw [hwrite]
      · next hwrite => split <;> rw [hwrite]

/-- Whenever the processing of a file has an outcome, it ends in one of the four ways. -/
theorem exists_ends (h : u.process d path = (d', .ok o)) : ∃ e, u.Ends d path d' o e := by
  rw [process] at h
  split at h
  · next p hproblem =>
    have hread : ∀ b, ¬ u.Reads d path b := fun b hb => by
      rw [unpackFile_eq_ok_iff.2 ⟨b, hb, rfl⟩] at hproblem
      cases hproblem
    split at h
    · next words hwords =>
      cases h
      exact ⟨.unreadable, .unreadable hread hproblem hwords⟩
    · cases h
  · next result hresult =>
    obtain ⟨b, hread, hwalk⟩ := unpackFile_eq_ok_iff.1 hresult
    -- The walk tells a bundle without statements from the others, and no manifest is written for it.
    by_cases hcount : b.statementCount = 0
    · obtain rfl : result = { status := .emptyInput } := by rw [← hwalk, Walker.walk, if_pos hcount]
      cases h
      exact ⟨.empty, .empty hread hcount⟩
    · obtain rfl := (walk_of_statementCount u.walker hcount).symm.trans hwalk
      rw [if_neg (by simp [WalkResult.isEmptyInput])] at h
      split at h
      · cases h
      · next target htarget =>
        split at h
        · next written hwrite =>
          cases h
          obtain ⟨place, hwrites⟩ := exists_writes
            (OutputSettings.proper_of_manifestPath htarget) hwrite
          exact ⟨.written, .written hread hcount htarget hwrites⟩
        · next made p hproblem =>
          split at h
          · next words hwords =>
            cases h
            exact ⟨.unwritten, .unwritten hread hcount htarget hproblem hwords
              (built_of_writeManifest hproblem)⟩
          · cases h

/-- There is a result wherever the processing succeeded. -/
theorem Ends.result_isSome {e : Ending} (h : u.Ends d path d' o e) (hsuccess : o.success = true) :
    o.result.isSome = true := by
  cases h with
  | unreadable | unwritten => simp [Outcome.success] at hsuccess
  | empty | written => rfl

/-! ## Several files -/

/-- Processing several files is processing the first one, and then the others. -/
theorem processAll_cons {outcomes : List Outcome} {first : String} {rest : List String}
    (h : u.processAll d (first :: rest) = (d', .ok outcomes)) :
    ∃ after o others, u.process d first = (after, .ok o) ∧ u.processAll after rest =
    (d', .ok others) ∧
      outcomes = o :: others := by
  rw [processAll] at h
  split at h
  · cases h
  · next after o hfirst =>
    split at h
    · cases h
    · next last others hrest =>
      cases h
      exact ⟨after, o, others, hfirst, hrest, rfl⟩

/-- Every outcome of several files is that of one of them, on some disk. -/
theorem exists_process_of_mem {outcomes : List Outcome} {paths : List String}
    (h : u.processAll d paths = (d', .ok outcomes)) (ho : o ∈ outcomes) :
    ∃ before path after, path ∈ paths ∧ u.process before path = (after, .ok o) := by
  induction paths generalizing d outcomes with
  | nil =>
    cases h
    cases ho
  | cons first rest ih =>
    obtain ⟨after, outcome, others, hfirst, hrest, rfl⟩ := processAll_cons h
    rcases List.mem_cons.1 ho with rfl | ho
    · exact ⟨d, first, after, List.mem_cons_self, hfirst⟩
    · obtain ⟨before, path, after, hpath, hprocess⟩ := ih hrest ho
      exact ⟨before, path, after, List.mem_cons_of_mem _ hpath, hprocess⟩

/-- So every outcome of several files is that of a file whose processing ended in some way. -/
theorem exists_ends_of_mem {outcomes : List Outcome} {paths : List String}
    (h : u.processAll d paths = (d', .ok outcomes)) (ho : o ∈ outcomes) :
    ∃ before path after e, u.Ends before path after o e := by
  obtain ⟨before, path, after, -, hprocess⟩ := exists_process_of_mem h ho
  exact ⟨before, path, after, exists_ends hprocess⟩

/-- Whenever the processing of a file has an outcome, it ends in exactly one of the four ways. So an
    outcome without an error has a result, also among the outcomes of several files. -/
theorem outcome_ends (u : Unpacker) :
    (∀ d path d' o, u.process d path = (d', .ok o) → ∃! e, u.Ends d path d' o e) ∧
      ∀ d paths d' outcomes, u.processAll d paths = (d', .ok outcomes) →
        ∀ o ∈ outcomes, o.success = true → o.result.isSome = true := by
  refine ⟨fun d path d' o h => ?_, fun d paths d' outcomes h o ho hsuccess => ?_⟩
  · obtain ⟨e, he⟩ := exists_ends h
    exact ⟨e, he, fun other hother => hother.eq_endingOf.trans he.eq_endingOf.symm⟩
  · obtain ⟨before, path, after, -, hprocess⟩ := exists_process_of_mem h ho
    obtain ⟨e, he⟩ := exists_ends hprocess
    exact he.result_isSome hsuccess

end

open scoped Usual in
/-- A bundle whose manifest goes to a directory that is made for it, and behind it a file that is
    missing. -/
theorem outcome_ends_of_bundle :
    let u : Unpacker := { output.directory := .text "out/../out" }
    let d : Disk := { entries := [(["one.js"], .file (Utf8.encode "m.run()".toList))] }
    let o : Outcome := {
      input := "one.js"
      result := some { status := .ok, records := [] }
      manifest := some "out/../out/lasso-stats.json" }
    let missing : Outcome := {
      input := "two.js"
      error := some "[Errno 2] No such file or directory: 'two.js'" }
    let d' := (u.processAll d ["one.js", "two.js"]).1
    u.process d "one.js" = (d', .ok o) ∧ (∃! e, u.Ends d "one.js" d' o e) ∧
      u.processAll d ["one.js", "two.js"] = (d', .ok [o, missing]) ∧
      ∀ other ∈ [o, missing], other.success = true → other.result.isSome = true := by
  intro u d o missing d'
  have hone : u.process d "one.js" = (d', .ok o) := by decide +kernel
  have hall : u.processAll d ["one.js", "two.js"] = (d', .ok [o, missing]) := by decide +kernel
  exact ⟨hone, (outcome_ends u).1 d "one.js" d' o hone, hall,
    (outcome_ends u).2 d ["one.js", "two.js"] d' [o, missing] hall⟩

end Unpacker

end BundleManifest
