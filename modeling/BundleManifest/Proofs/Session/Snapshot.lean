import BundleManifest.Report.Usual
import BundleManifest.Session
import BundleManifest.Settings.Usual
import Mathlib.Logic.Function.Basic

/-!
# What an unpacker takes and what it shares

Settings are objects. The current ones can be changed in place, or replaced by others, and an unpacker
holds on to the ones with which it was made: what they say about extraction is taken over at this
moment, and how bundles are read and where manifests go is looked up in them each time. A session has
no such objects; it only knows the current settings, and whether the unpacker holds others.

Here are the objects (`Objects`): all settings that were ever made, which of them are current, and
which the unpacker holds. The session is seen to agree with them along all steps
(`Objects.Agrees.run`). What an unpacker does is then a matter of the objects: settings that are not
current never change, so that an unpacker whose settings have been replaced goes on with what they
were (`Objects.boundSettings_run`).

The relation between the two is proved once, as an invariant of steps (`Agrees.step`), with one case
for each kind of step; what a whole run keeps follows by induction. From then on nothing is said about
sessions that is not said about objects, and there each fact needs a line: a step that makes no
unpacker changes neither which settings are bound nor what was taken over from them, and a change in
place reaches the bound settings if they are the current ones.

* `Session.run_append`: steps after some steps do not change the answers to these;
* `Session.answers_follow_objects`: what the answers of an unpacker are, after any steps.
-/

namespace BundleManifest

/-! ## Options of a call -/

/-- The receiver that calls need. Only a text can be the receiver of a call. -/
def ExtractionSettings.wanted (s : ExtractionSettings) : Option String :=
  match s.receiver with
  | .null => none
  | .text receiver => some receiver
  | _ => some ""

/-- Decodes the text of a bundle, with the options of the call. -/
def unpackSource (text : String) (receiver : Option String) (includeContent includeLoader : Bool) :
    Except Script.SyntaxError WalkResult :=
  (Bundle.ofText text).map (Walker.walk ⟨⟨receiver⟩, ⟨includeContent, includeLoader⟩⟩)

/-- Changes one of the settings. -/
def Settings.set (settings : Settings) (part : Session.Section) (key : String) (v : Value) :
    Settings :=
  match part with
  | .extraction => { settings with extraction := settings.extraction.set key v }
  | .output => { settings with output := settings.output.set key v }

/-- Whether a step makes an unpacker. -/
def Session.Step.makesUnpacker : Session.Step → Bool
  | .build | .buildDefault => true
  | _ => false

/-! ## Objects -/

/-- All settings that were made, by their numbers, and who holds them. -/
structure Objects where
  /-- What the settings with a number say. -/
  settings : Nat → Settings
  /-- How many settings were made. -/
  count : Nat
  /-- The number of the current settings. -/
  current : Nat
  /-- The number of the settings with which the unpacker was made. -/
  bound : Nat
  /-- What these said about extraction then. -/
  taken : ExtractionSettings
  current_lt : current < count
  bound_lt : bound < count

namespace Objects

/-- At the beginning there are only the default settings, and the unpacker was made with them. -/
def start : Objects where
  settings _ := {}
  count := 1
  current := 0
  bound := 0
  taken := {}
  current_lt := Nat.one_pos
  bound_lt := Nat.one_pos

/-- What the current settings say. -/
def currentSettings (o : Objects) : Settings :=
  o.settings o.current

/-- What the settings of the unpacker say. -/
def boundSettings (o : Objects) : Settings :=
  o.settings o.bound

/-- New settings become the current ones. -/
def replace (o : Objects) (settings : Settings) : Objects where
  settings := Function.update o.settings o.count settings
  count := o.count + 1
  current := o.count
  bound := o.bound
  taken := o.taken
  current_lt := Nat.lt_succ_self _
  bound_lt := Nat.lt_succ_of_lt o.bound_lt

/-- The current settings are changed in place. -/
def change (o : Objects) (f : Settings → Settings) : Objects :=
  { o with settings := Function.update o.settings o.current (f o.currentSettings) }

/-- An unpacker is made with the current settings. -/
def build (o : Objects) : Objects :=
  { o with bound := o.current, taken := o.currentSettings.extraction, bound_lt := o.current_lt }

/-- An unpacker is made with settings of its own. -/
def buildDefault (o : Objects) : Objects where
  settings := Function.update o.settings o.count {}
  count := o.count + 1
  current := o.current
  bound := o.count
  taken := {}
  current_lt := Nat.lt_succ_of_lt o.current_lt
  bound_lt := Nat.lt_succ_self _

/-- The objects after a step of a session. -/
def step [Settings.Host] (o : Objects) (s : Session) : Session.Step → Objects
  | .load path useEnvironment checks =>
    match Settings.load s.disk path (if useEnvironment then some s.environment else none) checks with
    | .error _ => o
    | .ok settings => o.replace settings
  | .reset => o.replace {}
  | .set part key v => o.change (·.set part key v)
  | .build => o.build
  | .buildDefault => o.buildDefault
  | _ => o

/-- The objects after some steps of a session. -/
def run [Report.Console] [Text.Codecs] [Settings.Host] (o : Objects) (s : Session) :
    List Session.Step → Objects
  | [] => o
  | step :: rest => (o.step s step).run (s.step step).1 rest

variable {o : Objects} {s : Session}

section Changes

variable {settings : Settings} {f : Settings → Settings}

@[simp]
theorem currentSettings_replace : (o.replace settings).currentSettings = settings :=
  Function.update_self _ _ _

/-- The unpacker does not hear of new settings. -/
@[simp]
theorem boundSettings_replace : (o.replace settings).boundSettings = o.boundSettings :=
  Function.update_of_ne (Nat.ne_of_lt o.bound_lt) _ _

/-- A change in place is seen by everyone who asks for the current settings. -/
@[simp]
theorem currentSettings_change : (o.change f).currentSettings = f o.currentSettings :=
  Function.update_self _ _ _

/-- An unpacker that holds the current settings sees how they change. -/
theorem boundSettings_change_of_eq (h : o.bound = o.current) :
    (o.change f).boundSettings = f o.currentSettings := by
  have hbound : (o.change f).boundSettings =
      Function.update o.settings o.current (f o.currentSettings) o.bound := rfl
  rw [hbound, h, Function.update_self]

/-- A change in place is not seen by an unpacker that holds other settings. -/
theorem boundSettings_change_of_ne (h : o.bound ≠ o.current) :
    (o.change f).boundSettings = o.boundSettings :=
  Function.update_of_ne h _ _

@[simp]
theorem currentSettings_buildDefault : o.buildDefault.currentSettings = o.currentSettings :=
  Function.update_of_ne (Nat.ne_of_lt o.current_lt) _ _

@[simp]
theorem boundSettings_buildDefault : o.buildDefault.boundSettings = {} :=
  Function.update_self _ _ _

end Changes

/-! ## What steps do to objects -/

section Steps

variable [Settings.Host] {step : Session.Step} {rest : List Session.Step}

/-- A step that makes no unpacker leaves the objects as they are, replaces the current settings or
    changes them. -/
theorem step_cases (o : Objects) (s : Session) (h : step.makesUnpacker = false) :
    o.step s step = o ∨ (∃ settings, o.step s step = o.replace settings) ∨
      ∃ f, o.step s step = o.change f := by
  cases step
  case load path useEnvironment checks =>
    simp only [Objects.step]
    split
    · exact .inl rfl
    · next settings _ => exact .inr (.inl ⟨settings, rfl⟩)
  case reset => exact .inr (.inl ⟨{}, rfl⟩)
  case set part key v => exact .inr (.inr ⟨(·.set part key v), rfl⟩)
  case build | buildDefault => cases h
  all_goals exact .inl rfl

/-- Only making an unpacker takes a snapshot. -/
theorem taken_step (h : step.makesUnpacker = false) : (o.step s step).taken = o.taken := by
  obtain heq | ⟨settings, heq⟩ | ⟨f, heq⟩ := step_cases o s h <;> rw [heq]
  · rfl
  · rfl

/-- Only making an unpacker changes which settings it holds. -/
theorem bound_step (h : step.makesUnpacker = false) : (o.step s step).bound = o.bound := by
  obtain heq | ⟨settings, heq⟩ | ⟨f, heq⟩ := step_cases o s h <;> rw [heq]
  · rfl
  · rfl

/-- When the current settings are replaced, the unpacker does not hold the current ones any more. -/
theorem bound_ne_current_of_replaced (h : step.makesUnpacker = false)
    (hcurrent : (o.step s step).current ≠ o.current) :
    (o.step s step).bound ≠ (o.step s step).current := by
  obtain heq | ⟨settings, heq⟩ | ⟨f, heq⟩ := step_cases o s h <;> rw [heq] at hcurrent ⊢
  · exact absurd rfl hcurrent
  · exact Nat.ne_of_lt o.bound_lt
  · exact absurd rfl hcurrent

/-- When a step replaces the current settings, the unpacker goes on with those it holds. -/
theorem boundSettings_step_of_replaced (h : step.makesUnpacker = false)
    (hcurrent : (o.step s step).current ≠ o.current) :
    (o.step s step).boundSettings = o.boundSettings := by
  obtain heq | ⟨settings, heq⟩ | ⟨f, heq⟩ := step_cases o s h <;> rw [heq] at hcurrent ⊢
  · exact boundSettings_replace
  · exact absurd rfl hcurrent

/-- Settings that only the unpacker holds are not changed, and are not held by anything else later. -/
theorem boundSettings_step (h : step.makesUnpacker = false) (hne : o.bound ≠ o.current) :
    (o.step s step).bound ≠ (o.step s step).current ∧
      (o.step s step).boundSettings = o.boundSettings := by
  obtain heq | ⟨settings, heq⟩ | ⟨f, heq⟩ := step_cases o s h <;> rw [heq]
  · exact ⟨hne, rfl⟩
  · exact ⟨Nat.ne_of_lt o.bound_lt, boundSettings_replace⟩
  · exact ⟨hne, boundSettings_change_of_ne hne⟩

variable [Report.Console] [Text.Codecs]

theorem run_append (l l' : List Session.Step) :
    o.run s (l ++ l') = (o.run s l).run (s.run l).1 l' := by
  induction l generalizing o s with
  | nil => rfl
  | cons step rest ih => exact ih

/-- What each step that makes no unpacker preserves, all of them preserve together. -/
theorem run_induction {motive : Objects → Prop}
    (hkeeps : ∀ (o : Objects) (s : Session) (step : Session.Step), step.makesUnpacker = false →
      motive o →
      motive (o.step s step))
    (h : ∀ step ∈ rest, step.makesUnpacker = false) (ho : motive o) : motive (o.run s rest) := by
  induction rest generalizing o s with
  | nil => exact ho
  | cons step rest ih =>
    obtain ⟨hstep, hrest⟩ := List.forall_mem_cons.1 h
    exact ih hrest (hkeeps o s step hstep ho)

/-- The snapshot lasts until the next unpacker is made. -/
theorem taken_run (h : ∀ step ∈ rest, step.makesUnpacker = false) : (o.run s rest).taken = o.taken :=
  run_induction (motive := fun o' => o'.taken = o.taken)
    (fun _ _ _ hstep ho => (taken_step hstep).trans ho) h rfl

/-- The unpacker holds the same settings until the next one is made. -/
theorem bound_run (h : ∀ step ∈ rest, step.makesUnpacker = false) : (o.run s rest).bound = o.bound :=
  run_induction (motive := fun o' => o'.bound = o.bound)
    (fun _ _ _ hstep ho => (bound_step hstep).trans ho) h rfl

/-- Settings that only the unpacker holds stay as they are until the next unpacker is made. -/
theorem boundSettings_run (h : ∀ step ∈ rest, step.makesUnpacker = false)
    (hne : o.bound ≠ o.current) :
    (o.run s rest).boundSettings = o.boundSettings := by
  -- The unpacker stays the only one that holds them.
  refine (run_induction
    (motive := fun o' => o'.bound ≠ o'.current ∧ o'.boundSettings = o.boundSettings)
    (fun o' s' step hstep ho => ?_) h ⟨hne, rfl⟩).2
  obtain ⟨hne', heq⟩ := boundSettings_step (s := s') hstep ho.1
  exact ⟨hne', heq.trans ho.2⟩

end Steps

/-! ## The session and its objects -/

/-- A session knows of its objects all that its answers depend on. -/
structure Agrees (s : Session) (o : Objects) : Prop where
  current : s.current = o.currentSettings
  walker : s.walker = .ofSettings o.taken
  output : s.unpacker.output = o.boundSettings.output
  attached : s.detached = none ↔ o.bound = o.current

namespace Agrees

theorem start (disk : Disk) (environment : Environment) :
    Agrees { disk, environment } Objects.start :=
  ⟨rfl, rfl, rfl, iff_of_true rfl rfl⟩

/-- Only the settings and the unpacker of a session matter. -/
theorem congr {s' : Session} (h : Agrees s o) (hcurrent : s'.current = s.current)
    (hwalker : s'.walker = s.walker) (hdetached : s'.detached = s.detached) : Agrees s' o where
  current := hcurrent.trans h.current
  walker := hwalker.trans h.walker
  output := by
    rw [← h.output, Session.unpacker, Session.unpacker, hcurrent, hdetached]
  attached := by
    rw [hdetached]
    exact h.attached

/-- A session and its objects agree on new settings. -/
theorem replace (h : Agrees s o) (settings : Settings) :
    Agrees (s.replace settings) (o.replace settings) where
  current := currentSettings_replace.symm
  walker := h.walker
  output := by
    rw [Session.unpacker_replace, boundSettings_replace]
    exact h.output
  attached := iff_of_false (Option.some_ne_none _) (Nat.ne_of_lt o.bound_lt)

/-- They agree on a change in place: the session changes the settings of the unpacker, too, if these
    are the current ones. -/
theorem set (h : Agrees s o) (part : Session.Section) (key : String) (v : Value) :
    Agrees (s.set part key v) (o.change (·.set part key v)) := by
  have hcurrent : (s.set part key v).current = o.currentSettings.set part key v := by
    rw [← h.current]
    cases part <;> rfl
  have hdetached : (s.set part key v).detached = s.detached := by
    cases part <;> rfl
  refine
    { current := hcurrent.trans (currentSettings_change (f := (·.set part key v))).symm
      walker := (Session.walker_set s part key v).trans h.walker
      output := ?_
      attached := hdetached ▸ h.attached }
  rw [Session.unpacker, hdetached, hcurrent]
  by_cases hbound : o.bound = o.current
  · rw [boundSettings_change_of_eq hbound, h.attached.2 hbound]
    rfl
  · obtain ⟨output, houtput⟩ := Option.ne_none_iff_exists'.1 (mt h.attached.1 hbound)
    rw [boundSettings_change_of_ne hbound, ← h.output, Session.unpacker, houtput]
    rfl

/-- They agree on a new unpacker, which holds the current settings. -/
theorem build (h : Agrees s o) : Agrees s.build o.build where
  current := h.current
  walker := by
    rw [Session.build, h.current]
    rfl
  output := by
    rw [Session.unpacker_build, h.current]
    rfl
  attached := iff_of_true rfl rfl

theorem buildDefault (h : Agrees s o) : Agrees s.buildDefault o.buildDefault where
  current := h.current.trans currentSettings_buildDefault.symm
  walker := rfl
  output := by
    rw [boundSettings_buildDefault]
    rfl
  attached := iff_of_false (Option.some_ne_none _) (Nat.ne_of_gt o.current_lt)

variable [Report.Console] [Text.Codecs] [Settings.Host]

/-- They agree after every step: this is the invariant of a run. -/
theorem step (h : Agrees s o) (step : Session.Step) : Agrees (s.step step).1 (o.step s step) := by
  cases step
  case load path useEnvironment checks =>
    simp only [Session.step, Objects.step]
    cases Settings.load s.disk path (if useEnvironment then some s.environment else none) checks with
    | error => exact h
    | ok settings => exact h.replace settings
  case reset => exact h.replace {}
  case set part key v => exact h.set part key v
  case build => exact h.build
  case buildDefault => exact h.buildDefault
  all_goals exact h.congr rfl rfl rfl

/-- A session agrees with its objects after any steps. -/
theorem run (h : Agrees s o) (steps : List Session.Step) :
    Agrees (s.run steps).1 (o.run s steps) := by
  induction steps generalizing s o with
  | nil => exact h
  | cons step rest ih => exact ih (h.step step)

end Agrees

end Objects

namespace Session

variable {s : Session}

/-- An unpacker decodes texts with the options that its settings had when it was made. -/
theorem unpackText_eq {o : Objects} (h : o.Agrees s) (text : String) : s.unpacker.unpackText text =
    unpackSource text o.taken.wanted o.taken.includeContent.truthy o.taken.includeLoader.truthy := by
  have hwalker : s.unpacker.walker = .ofSettings o.taken := h.walker
  rw [Unpacker.unpackText, hwalker]
  rfl

section

variable [Report.Console] [Text.Codecs] [Settings.Host]

theorem run_append (l l' : List Step) : s.run (l ++ l') =
    (((s.run l).1.run l').1, (s.run l).2 ++ ((s.run l).1.run l').2) := by
  induction l generalizing s with
  | nil => rfl
  | cons step rest ih =>
    rw [List.cons_append, run.eq_2, run.eq_2]
    dsimp only
    rw [ih]
    rfl

theorem length_answers (steps : List Step) : (s.run steps).2.length = steps.length := by
  induction steps generalizing s with
  | nil => rfl
  | cons step rest ih =>
    exact congrArg Nat.succ ih

/-- The answer to a step, whatever comes after it. -/
theorem answer_eq (before : List Step) (step : Step) (after : List Step) :
    (s.run (before ++ step :: after)).2[before.length]? = some ((s.run before).1.step step).2 := by
  rw [run_append, ← length_answers before, List.getElem?_append_right (Nat.le_refl _), Nat.sub_self]
  rfl

/-- The answers of an unpacker after any steps from the beginning of a session on, whatever comes
    after them.

    * Texts are decoded with the options that the extraction settings gave when the unpacker was made.
    * Files are read, and the paths of manifests are found, with what the output settings of the same
      object say at this moment, even if these settings are not the current ones any more.
    * When an unpacker is made with the current settings, it takes over what they say and holds on to
      them until the next one is made, whatever the steps in between are.
    * When one of the current settings is changed in place, then nothing of what was taken over
      changes, and the unpacker sees the change if it holds the current settings.
    * When the current settings are replaced, then neither what was taken over changes nor what the
      settings of the unpacker say, until the next one is made. -/
theorem answers_follow_objects (disk : Disk) (environment : Environment) (before : List Step) :
    let first : Session := { disk, environment }
    let s := (first.run before).1
    let o := Objects.start.run first before
    let decoded (text : String) :=
      unpackSource text o.taken.wanted o.taken.includeContent.truthy o.taken.includeLoader.truthy
    s.current = o.currentSettings ∧
    (∀ step after, (first.run (before ++ step :: after)).2[before.length]? = some (s.step step).2) ∧
    (∀ text, (s.step (.unpackText text)).2 = .of .result ((decoded text).mapError .script)) ∧
    (∀ path, (s.step (.unpackFile path)).2 = .of .result (do
      let name := (Path.ofText path).text
      let text ← o.boundSettings.output.decode (s.disk.read name)
      (decoded text).mapError fun e => .script (e.withFile name))) ∧
    (∀ path, (s.step (.manifestPath path)).2 =
      .of (fun p : Path => .text p.text) (o.boundSettings.output.manifestPath s.disk.home path)) ∧
    (∀ after, (∀ step ∈ after, step.makesUnpacker = false) →
      let later := Objects.start.run first (before ++ .build :: after)
      later.taken = s.current.extraction ∧ later.bound = o.current) ∧
    (∀ part key v,
      let later := Objects.start.run first (before ++ [.set part key v])
      later.taken = o.taken ∧ later.boundSettings =
        if o.bound = o.current then o.boundSettings.set part key v else o.boundSettings) ∧
    ∀ step after, (∀ x ∈ step :: after, x.makesUnpacker = false) →
    (o.step s step).current ≠ o.current →
      let later := Objects.start.run first (before ++ step :: after)
      later.taken = o.taken ∧ later.boundSettings = o.boundSettings := by
  intro first s o decoded
  have hagrees : o.Agrees s := (Objects.Agrees.start disk environment).run before
  refine ⟨hagrees.current, answer_eq before, fun text => ?_, fun path => ?_, fun path => ?_,
    fun after hafter => ?_, fun part key v => ?_, fun step after hall hreplaced => ?_⟩
  · rw [step, unpackText_eq hagrees]
  · rw [step, Unpacker.unpackFile, hagrees.output]
    simp only [unpackText_eq hagrees]
    rfl
  · rw [step, hagrees.output]
  · intro later
    have hlater : later = (o.build).run (s.step .build).1 after := Objects.run_append before _
    rw [hlater, Objects.taken_run hafter, Objects.bound_run hafter, hagrees.current]
    exact ⟨rfl, rfl⟩
  · intro later
    have hlater : later = o.change (·.set part key v) := Objects.run_append before _
    rw [hlater]
    refine ⟨rfl, ?_⟩
    split
    · next hbound =>
      have hcurrent : o.boundSettings = o.currentSettings := congrArg o.settings hbound
      rw [Objects.boundSettings_change_of_eq hbound, hcurrent]
    · next hbound => exact Objects.boundSettings_change_of_ne hbound
  · intro later
    obtain ⟨hstep, hafter⟩ := List.forall_mem_cons.1 hall
    have hlater : later = (o.step s step).run (s.step step).1 after := Objects.run_append before _
    have htaken : later.taken = o.taken := by
      rw [hlater, Objects.taken_run hafter, Objects.taken_step hstep]
    refine ⟨htaken, ?_⟩
    -- The step itself does not touch the settings of the unpacker, and no later one can.
    rw [hlater,
      Objects.boundSettings_run hafter (Objects.bound_ne_current_of_replaced hstep hreplaced)]
    exact Objects.boundSettings_step_of_replaced hstep hreplaced

end

open scoped Usual in
/-- The receiver is changed after an unpacker was made, and so is the directory of manifests; then the
    settings are replaced, and the directory is changed once more. -/
theorem answers_follow_objects_of_replaced :
    let text := "n.main('/x');m.main('/y')"
    let before : List Step := [.set .extraction "receiver" (.text "m"), .build,
      .set .extraction "receiver" (.text "n"), .set .output "output_dir" (.text "a")]
    let after : List Step := [.set .output "output_dir" (.text "z")]
    let s := (run {} before).1
    let o := Objects.start.run {} before
    (∀ x ∈ .reset :: after, x.makesUnpacker = false) ∧ (o.step s .reset).current ≠ o.current ∧
      (run {} (before ++ .unpackText text :: after)).2[4]? =
        some (.of .result ((unpackSource text (some "m") true true).mapError .script)) ∧
      (unpackSource text (some "m") true true).toOption.map (fun r => r.records.map Record.path) =
      some ["/y"] ∧
      (Objects.start.run {} (before ++ .reset :: after)).boundSettings = s.current ∧
      (s.current.output.manifestPath s.disk.home "b.js").toOption.map Path.text =
        some "a/lasso-stats.json" := by
  intro text before after s o
  have hsteps : ∀ x ∈ Step.reset :: after, x.makesUnpacker = false := by
    simp [after, Step.makesUnpacker]
  have hreplaced : (o.step s .reset).current ≠ o.current := by decide
  obtain ⟨-, hanswer, htext, -, -, -, -, hkept⟩ := answers_follow_objects {} [] before
  refine ⟨hsteps, hreplaced, ?_, by decide +kernel, ?_, by decide +kernel⟩
  · exact (hanswer (.unpackText text) after).trans (congrArg some (htext text))
  · exact (hkept .reset after hsteps hreplaced).2

end Session

end BundleManifest
