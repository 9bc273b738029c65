import BundleManifest.CommandLine.Run
import BundleManifest.Proofs.Disk.Growth
import BundleManifest.Proofs.Text.Utf8
import BundleManifest.Proofs.Unpacker.Ending
import BundleManifest.Report.Usual
import BundleManifest.Settings.Usual

/-!
# The manifests of several files

The place of a manifest depends on the directory of its bundle, or on the settings alone, and not on
the name of the bundle. So several files may have their manifests at one place, and each of them takes
the place of the one before: what is there in the end is the manifest of the last of them, although
every outcome says where its manifest is.

The invariant is about all places at once: each place that was named by an outcome so far holds the
manifest of the last of them. A file that is processed next either names the place, and then it is the
last, or leaves the place alone. Paths are compared by the places to which they lead, since two
different paths can lead to the same one.

* `Ends.grows`, `processAll_grows`: the disk grows with one file, and so with several;
* `Unpacker.Settled`: every place that an outcome names holds the manifest of the last outcome that
  names it;
* `settled_of_processAll`: so it is after several files are processed;
* `Settled.own`: an outcome has its own manifest at its place when no later outcome names the place;
* `own_manifest_iff`: exactly when the file that an outcome names is its own manifest, also after a
  run of the tool.
-/

namespace BundleManifest

variable {d d' : Disk} {place : Place} {o last : Outcome} {outcomes : List Outcome}

namespace Outcome

/-- The manifest of an outcome is at `place`. -/
def LeadsTo (o : Outcome) (d : Disk) (place : Place) : Prop :=
  ∃ m, o.manifest = some m ∧ d.locate m = .ok place

theorem LeadsTo.keeps (h : o.LeadsTo d place) (hd : d.Keeps d') : o.LeadsTo d' place :=
  let ⟨m, hm, hlocate⟩ := h
  ⟨m, hm, hd.locate hlocate⟩

/-- The outcome number `j` is the last one whose manifest is at `place`. -/
structure IsLastAt (outcomes : List Outcome) (d : Disk) (place : Place) (j : Nat) (last : Outcome) :
    Prop where
  get : outcomes[j]? = some last
  leads : last.LeadsTo d place
  later : ∀ (k : Nat) (o : Outcome), j < k → outcomes[k]? = some o → ¬ o.LeadsTo d place

/-- An outcome is the last one at a place if no later one leads there. -/
theorem IsLastAt.head (h : o.LeadsTo d place) (hlater : ∀ other ∈ outcomes, ¬ other.LeadsTo d place) :
    IsLastAt (o :: outcomes) d place 0 o where
  get := rfl
  leads := h
  later k other hk hother := by
    obtain ⟨k, rfl⟩ := Nat.exists_eq_add_of_lt hk
    exact hlater other (List.mem_of_getElem? (by simpa using hother))

/-- An earlier outcome does not change which one is the last. -/
theorem IsLastAt.tail {j : Nat} (h : IsLastAt outcomes d place j last) :
    IsLastAt (o :: outcomes) d place (j + 1) last where
  get := h.get
  leads := h.leads
  later k other hk hother := by
    obtain ⟨k, rfl⟩ := Nat.exists_eq_add_of_lt hk
    exact h.later (j + k + 1) other (by omega) (by simpa [Nat.add_right_comm] using hother)

/-- Only one outcome is the last at a place. -/
theorem IsLastAt.unique {j k : Nat} {other : Outcome} (h : IsLastAt outcomes d place j last)
    (h' : IsLastAt outcomes d place k other) : last = other := by
  rcases Nat.lt_trichotomy j k with hlt | rfl | hlt
  · exact absurd h'.leads (h.later k other hlt h'.get)
  · exact Option.some.inj (h.get.symm.trans h'.get)
  · exact absurd h.leads (h'.later j last hlt h.get)

end Outcome

namespace Unpacker

variable {u : Unpacker} {path : String} {paths : List String} {e : Unpacker.Ending}
  {bytes : List UInt8}

/-- The text of the manifest of what was decoded according to an outcome. -/
def manifestText? (u : Unpacker) (o : Outcome) : Option String :=
  match o.result, u.output.indentation with
  | some result, .ok indent => some (Manifest.text indent result.records)
  | _, _ => none

/-- The file at a place is the manifest of what was decoded according to an outcome. -/
def HasManifestOf (u : Unpacker) (d : Disk) (place : Place) (o : Outcome) : Prop :=
  ∃ text, u.manifestText? o = some text ∧ d.get? place = some (.file (Utf8.encode text.toList))

theorem HasManifest.of {status : WalkStatus} {records : List Record}
    (h : u.HasManifest d place records)
    (ho : o.result = some { status, records }) : u.HasManifestOf d place o := by
  obtain ⟨indent, hindent, hfile⟩ := h
  exact ⟨Manifest.text indent records, by simp [manifestText?, ho, hindent], hfile⟩

/-! ## The last manifest at a place -/

/-- Every manifest that an outcome names is at a place, which holds the manifest of the last outcome
    with a manifest at this place. -/
def Settled (u : Unpacker) (d : Disk) (outcomes : List Outcome) : Prop :=
  ∀ (i : Nat) (o : Outcome) (m : String), outcomes[i]? = some o → o.manifest = some m →
    ∃ place j last, d.locate m = .ok place ∧ i ≤ j ∧ Outcome.IsLastAt outcomes d place j last ∧
      u.HasManifestOf d place last

/-- An outcome has its own manifest at its place, if no later outcome has one there. -/
theorem Settled.own (h : u.Settled d outcomes) {i : Nat} {m : String} (ho : outcomes[i]? = some o)
    (hm : o.manifest = some m)
    (hlater : ∀ (k : Nat) (other : Outcome) (place : Place), i < k → outcomes[k]? = some other →
      other.LeadsTo d place → ¬ o.LeadsTo d place) :
    ∃ place, d.locate m = .ok place ∧ u.HasManifestOf d place o := by
  obtain ⟨place, j, last, hlocate, hij, hlast, hmanifest⟩ := h i o m ho hm
  have hj : j = i := by
    by_contra hne
    exact hlater j last place (by omega) hlast.get hlast.leads ⟨m, hm, hlocate⟩
  subst hj
  obtain rfl : last = o := Option.some.inj (hlast.get.symm.trans ho)
  exact ⟨place, hlocate, hmanifest⟩

/-! ## One file -/

/-- A manifest may be put where a file was, and then there is a file again. -/
theorem Writes.grows {target : Path} {records : List Record}
    (h : u.Writes d d' target place records) :
    d.Grows d' := by
  refine ⟨h.keeps, fun other bytes hother => ?_⟩
  by_cases hplace : other = place
  · obtain ⟨indent, -, hmanifest⟩ := h.manifest
    exact ⟨_, hplace ▸ hmanifest⟩
  · exact ⟨bytes, (h.frame other hplace).get?_eq_some hother⟩

section

variable [Text.Codecs]

theorem Ends.grows (h : u.Ends d path d' o e) : d.Grows d' := by
  cases h with
  | unreadable | empty => exact .refl d
  | written _ _ _ hwrites => exact hwrites.grows
  | unwritten _ _ _ _ _ hbuilt => exact hbuilt.grows

/-- A manifest that an outcome names is there. -/
theorem Ends.exists_place {m : String} (h : u.Ends d path d' o e) (hm : o.manifest = some m) :
    ∃ place, d'.locate m = .ok place ∧ u.HasManifestOf d' place o := by
  cases h with
  | unreadable | empty | unwritten => cases hm
  | written _ _ _ hwrites =>
    cases hm
    exact ⟨_, hwrites.locate, hwrites.manifest.of rfl⟩

/-- A file stays as it is, unless the manifest takes its place. -/
theorem Ends.file_stays (h : u.Ends d path d' o e) (hfile : d.get? place = some (.file bytes))
    (hother : ¬ o.LeadsTo d' place) : d'.get? place = some (.file bytes) := by
  cases h with
  | unreadable | empty => exact hfile
  | unwritten _ _ _ _ _ hbuilt => exact (hbuilt.change place).get?_eq_some hfile
  | written _ _ _ hwrites =>
    refine (hwrites.frame place ?_).get?_eq_some hfile
    rintro rfl
    exact hother ⟨_, rfl, hwrites.locate⟩

/-! ## Several files -/

/-- The files of a batch are processed one after the other. -/
theorem ends_of_processAll_cons {first : String}
    (h : u.processAll d (first :: paths) = (d', .ok outcomes)) :
    ∃ after o others e, u.Ends d first after o e ∧ u.processAll after paths = (d', .ok others) ∧
      outcomes = o :: others := by
  obtain ⟨after, o, others, hfirst, hrest, hcons⟩ := processAll_cons h
  obtain ⟨e, he⟩ := exists_ends hfirst
  exact ⟨after, o, others, e, he, hrest, hcons⟩

/-- A batch makes the disk grow. -/
theorem processAll_grows (h : u.processAll d paths = (d', .ok outcomes)) : d.Grows d' := by
  induction paths generalizing d outcomes with
  | nil =>
    cases h
    exact .refl _
  | cons first rest ih =>
    obtain ⟨after, o, others, e, hfirst, hrest, rfl⟩ := ends_of_processAll_cons h
    exact hfirst.grows.trans (ih hrest)

/-- A file stays as it is, unless one of the manifests takes its place. -/
theorem processAll_file_stays (h : u.processAll d paths = (d', .ok outcomes))
    (hfile : d.get? place = some (.file bytes)) (hothers : ∀ o ∈ outcomes, ¬ o.LeadsTo d' place) :
    d'.get? place = some (.file bytes) := by
  induction paths generalizing d outcomes with
  | nil =>
    cases h
    exact hfile
  | cons first rest ih =>
    obtain ⟨after, o, others, e, hfirst, hrest, rfl⟩ := ends_of_processAll_cons h
    obtain ⟨ho, hothers⟩ := List.forall_mem_cons.1 hothers
    -- A path that leads to the place after the first file leads there in the end, too.
    refine ih hrest (hfirst.file_stays hfile fun hlead => ?_) hothers
    exact ho (hlead.keeps (processAll_grows hrest).toKeeps)

/-- After a batch every manifest is that of the last outcome that names its place: the induction is on
    the files, from the first one on. -/
theorem settled_of_processAll (h : u.processAll d paths = (d', .ok outcomes)) :
    u.Settled d' outcomes := by
  induction paths generalizing d outcomes with
  | nil =>
    cases h
    intro i o m ho
    simp at ho
  | cons first rest ih =>
    obtain ⟨after, o, others, e, hfirst, hrest, rfl⟩ := ends_of_processAll_cons h
    have hsettled := ih hrest
    intro i named m hnamed hm
    cases i with
    | succ i =>
      obtain ⟨place, j, last, hlocate, hij, hlast, hmanifest⟩ :=
        hsettled i named m (by simpa using hnamed) hm
      exact ⟨place, j + 1, last, hlocate, by omega, hlast.tail, hmanifest⟩
    | zero =>
      obtain rfl : o = named := by simpa using hnamed
      obtain ⟨place, hafter, text, htext, hfile⟩ := hfirst.exists_place hm
      have hlocate := (processAll_grows hrest).locate hafter
      by_cases hlater : ∃ other ∈ others, other.LeadsTo d' place
      · -- A later outcome names the place, and so the last one of the others does.
        obtain ⟨other, hother, m', hm', hlocate'⟩ := hlater
        obtain ⟨k, hk⟩ := List.mem_iff_getElem?.1 hother
        obtain ⟨place', j, last, hplace', -, hlast, hmanifest⟩ := hsettled k other m' hk hm'
        obtain rfl : place = place' := Except.ok.inj (hlocate'.symm.trans hplace')
        exact ⟨place, j + 1, last, hlocate, by omega, hlast.tail, hmanifest⟩
      · -- Nothing is written there any more.
        have hnone : ∀ other ∈ others, ¬ other.LeadsTo d' place := fun other hother hlead =>
          hlater ⟨other, hother, hlead⟩
        exact ⟨place, 0, o, hlocate, Nat.le_refl 0, .head ⟨m, hm, hlocate⟩ hnone, text, htext,
          processAll_file_stays hrest hfile hnone⟩

/-- An outcome that names a manifest has one. -/
theorem exists_manifestText_of_mem {m : String} (h : u.processAll d paths = (d', .ok outcomes))
    (ho : o ∈ outcomes) (hm : o.manifest = some m) : ∃ text, u.manifestText? o = some text := by
  obtain ⟨before, path, after, e, he⟩ := exists_ends_of_mem h ho
  obtain ⟨place, -, text, htext, -⟩ := he.exists_place hm
  exact ⟨text, htext⟩

/-- The tool processes the files of its command line with its settings, and nothing else changes the
    disk. -/
theorem execute_eq [Report.Console] [Settings.Host] {env : Environment} {a : CommandLine.Arguments}
    {s : Settings} (hs : CommandLine.settings d env a = .ok s) (hinputs : a.inputs ≠ [])
    (h : (ofSettings s).processAll d a.inputs = (d', .ok outcomes)) :
    CommandLine.execute d env a = (d', CommandLine.report a outcomes) := by
  rw [CommandLine.execute, if_neg (by simpa using hinputs), hs]
  dsimp only
  rw [h]

/-- After several files are processed, the file that an outcome names is its own manifest exactly if
    the last outcome with a manifest at the same place has the same manifest. A run of the tool leaves
    the disk and reports the outcomes of these files. -/
theorem own_manifest_iff [Report.Console] [Settings.Host] (u : Unpacker) {d d' : Disk}
    {paths : List String} {outcomes : List Outcome} (h : u.processAll d paths = (d', .ok outcomes)) :
    (∀ i o m, outcomes[i]? = some o → o.manifest = some m →
      ∃ place j last own text, d'.locate m = .ok place ∧ i ≤ j ∧
        Outcome.IsLastAt outcomes d' place j last ∧ u.manifestText? o = some own ∧
        u.manifestText? last = some text ∧ d'.read m = .ok (Utf8.encode text.toList) ∧
        (d'.read m = .ok (Utf8.encode own.toList) ↔ own = text)) ∧
    ∀ s env a, CommandLine.settings d env a = .ok s → u = ofSettings s → paths = a.inputs →
      paths ≠ [] →
      CommandLine.execute d env a = (d', CommandLine.report a outcomes) := by
  refine ⟨fun i o m ho hm => ?_, ?_⟩
  · obtain ⟨place, j, last, hlocate, hij, hlast, text, htext, hfile⟩ :=
      settled_of_processAll h i o m ho hm
    obtain ⟨own, hown⟩ := exists_manifestText_of_mem h (List.mem_of_getElem? ho) hm
    have hread := Disk.read_of_locate hlocate hfile
    refine ⟨place, j, last, own, text, hlocate, hij, hlast, hown, htext, hread, ?_⟩
    rw [hread, Except.ok.injEq, eq_comm (a := own)]
    exact ⟨fun hbytes => String.toList_inj.1 (Utf8.encode_injective hbytes), fun heq => heq ▸ rfl⟩
  · rintro s env a hs rfl rfl hinputs
    exact execute_eq hs hinputs h

end

/-! ## Two bundles in one directory -/

open scoped Usual

namespace TwoBundles

/-- The files to process. -/
def files : List String := ["one.js", "two.js"]

/-- A disk with two bundles, of which only the first one has a record. -/
def before : Disk where
  entries := [
    (["one.js"], .file (Utf8.encode "m.main('/a$1')".toList)),
    (["two.js"], .file (Utf8.encode "m.run()".toList))]

/-- The disk with the manifest of the second bundle. -/
def after : Disk :=
  before.put ["lasso-stats.json"] (.file (Utf8.encode "[]\n".toList))

/-- What was decoded from the first bundle. -/
def decoded : WalkResult where
  status := .ok
  records := [{
    kind := .main, size := 14, path := "/a$1", identity := { packageName := "a", version := "1" } }]

/-- The outcome of the first bundle. -/
def first : Outcome where
  input := "one.js"
  result := some decoded
  manifest := some "/lasso-stats.json"

/-- The outcome of the second bundle, which names the same place. -/
def second : Outcome where
  input := "two.js"
  result := some { status := .ok }
  manifest := some "/lasso-stats.json"

theorem processAll_eq : (ofSettings {}).processAll before files = (after, .ok [first, second]) := by
  decide +kernel

end TwoBundles

open TwoBundles in
/-- The first outcome names the place where the manifest of the second one is, also after a run of the
    tool. -/
theorem own_manifest_iff_of_two :
    (ofSettings {}).processAll before files = (after, .ok [first, second]) ∧
      (∃ place j last own text, after.locate "/lasso-stats.json" = .ok place ∧ 0 ≤ j ∧
        Outcome.IsLastAt [first, second] after place j last ∧
        (ofSettings {}).manifestText? first = some own ∧
        (ofSettings {}).manifestText? last = some text ∧
        after.read "/lasso-stats.json" = .ok (Utf8.encode text.toList) ∧
        (after.read "/lasso-stats.json" = .ok (Utf8.encode own.toList) ↔ own = text)) ∧
      CommandLine.execute before [] { inputs := files } =
        (after, CommandLine.report { inputs := files } [first, second]) :=
  ⟨processAll_eq, (own_manifest_iff _ processAll_eq).1 0 first "/lasso-stats.json" rfl rfl,
    (own_manifest_iff _ processAll_eq).2 {} [] { inputs := files } rfl rfl rfl (by decide)⟩

open TwoBundles in
/-- The manifest of the first of two bundles is lost, although its outcome is a success and names the
    place. -/
theorem first_manifest_lost :
    ¬ ∀ (s : Settings) (d d' : Disk) (paths : List String) (outcomes : List Outcome),
      s.validate = .ok () → paths.Nodup → (ofSettings s).processAll d paths = (d', .ok outcomes) →
      ∀ o ∈ outcomes, ∀ m result indent, o.success = true → o.manifest = some m →
      o.result = some result → s.output.indentation = .ok indent →
        d'.read m = .ok (Utf8.encode (Manifest.text indent result.records).toList) := by
  intro h
  have hvalid : ({} : Settings).validate = .ok () := rfl
  have hindent : ({} : Settings).output.indentation = .ok (some [' ', ' ']) := rfl
  have hread := h {} before after files _ hvalid (by decide) processAll_eq first
    List.mem_cons_self "/lasso-stats.json" decoded _ rfl rfl rfl hindent
  exact absurd hread (by decide +kernel)

end Unpacker

end BundleManifest
