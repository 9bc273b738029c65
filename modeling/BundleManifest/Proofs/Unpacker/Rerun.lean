import BundleManifest.Proofs.Unpacker.Batch

/-!
# Bundles that stay, and running again

Bundles are only read, but nothing keeps a manifest away from them: a manifest that has the name of a
bundle takes its place. As long as this does not happen, running again changes nothing.

The second run reads bundles on a disk that has the manifests of the first. It answers as the first
run did if no bundle was overwritten, and this is shown step by step with both runs side by side:
after any number of files, the two disks have the same at a place, or neither run has changed anything
there so far (`Again`).

* `Unpacker.file_stays_of_name`: files that do not have the name of the manifests stay, whatever
  becomes of the files that are processed;
* `Unpacker.Again`: the disks of two runs, the second one on the disk that the first one left;
* `Again.process`, `Again.processAll`: if everything is read as before, the second run has the same
  outcomes;
* `Unpacker.inputs_stay_iff`: when exactly a file stays, and when the second run changes nothing.
-/

namespace BundleManifest

namespace Unpacker

variable {u : Unpacker} {d d' D D' E : Disk} {path : String} {paths : List String} {o : Outcome}
  {outcomes : List Outcome} {e : Ending} {place : Place} {bytes : List UInt8} {target : Path}
  {records : List Record}

/-! ## Two runs -/

/-- The first run began on `d`, is on `D` now and will end on `d'`, where the second run began that is
    on `E` now. At every place, either both runs have the same, or none of them has changed
    anything. -/
structure Again (d d' D E : Disk) : Prop where
  first : d.Grows D
  last : D.Grows d'
  second : d'.Grows E
  same : ∀ place, E.get? place = D.get? place ∨
    D.get? place = d.get? place ∧ E.get? place = d'.get? place

namespace Again

theorem home_eq (h : Again d d' D E) : E.home = D.home :=
  h.second.home.trans h.last.home

/-- The second run has a directory only where there was one. -/
theorem get?_directory (h : Again d d' D E) (hplace : E.get? place = some .directory) :
    d'.get? place = some .directory := by
  rcases h.same place with hsame | ⟨-, hsame⟩
  · exact h.last.directory place (hsame ▸ hplace)
  · exact hsame ▸ hplace

/-- The second run has a file only where there was one. -/
theorem grows (h : Again d d' D E) : E.Grows d' := by
  refine ⟨⟨h.second.home.symm, fun place => h.get?_directory⟩, fun place bytes hplace => ?_⟩
  rcases h.same place with hsame | ⟨-, hsame⟩
  · exact h.last.file place bytes (hsame ▸ hplace)
  · exact ⟨bytes, hsame ▸ hplace⟩

/-- What is read at the end as at the beginning is read by the second run as by the first one. -/
theorem read_eq (h : Again d d' D E) (hread : d'.read path = d.read path) :
    E.read path = D.read path := by
  cases hfirst : d.read path with
  | error e =>
    have hlast := hread.trans hfirst
    rw [Disk.read_between h.first h.last hfirst hlast, Disk.read_between h.second h.grows hlast hlast]
  | ok bytes =>
    obtain ⟨place, hlocate, hplace⟩ := Disk.read_eq_ok_iff.1 hfirst
    have hlocateD := h.first.locate hlocate
    have hlocateE := h.second.locate (h.last.locate hlocateD)
    obtain ⟨bytesD, hplaceD⟩ := h.first.file place bytes hplace
    rw [Disk.read_of_locate hlocateD hplaceD]
    rcases h.same place with hsame | ⟨hsameD, hsameE⟩
    · exact Disk.read_of_locate hlocateE (hsame.trans hplaceD)
    · -- Neither run has changed the file, and it is the same in both of them.
      obtain ⟨place', hlocate', hplace'⟩ := Disk.read_eq_ok_iff.1 (hread.trans hfirst)
      obtain rfl : place = place' := Except.ok.inj ((h.last.locate hlocateD).symm.trans hlocate')
      obtain rfl : bytesD = bytes := by
        rw [hsameD, hplace] at hplaceD
        cases hplaceD
        rfl
      exact Disk.read_of_locate hlocateE (hsameE.trans hplace')

/-- A manifest that the first run writes can be written by the second one, which needs no directories
    for it. -/
theorem writeManifest (h : Again d d' D E) (hwrites : u.Writes D D' target place records)
    (hlast : D'.Grows d') :
    ∃ E', u.writeManifest E target records = (E', .ok ()) ∧ Again d d' D' E' := by
  obtain ⟨indent, hindent, hmanifest⟩ := hwrites.manifest
  have hparent : E.hasDirectory target.parent.text = true :=
    h.second.hasDirectory (hlast.hasDirectory (hwrites.above _ (.refl _)))
  have hlocate : E.locate target.text = .ok place := h.second.locate (hlast.locate hwrites.locate)
  obtain ⟨bytes, hplace⟩ := hlast.file place _ hmanifest
  have hfree : E.get? place ≠ some .directory := by
    intro hdirectory
    rw [h.get?_directory hdirectory] at hplace
    cases hplace
  have hwrite :=
    Disk.write_of_locate (Utf8.encode (Manifest.text indent records).toList) hlocate hfree
  have hgrows := Disk.grows_put hfree (Utf8.encode (Manifest.text indent records).toList)
  refine ⟨_, ?_, h.first.trans hwrites.grows, hlast, h.second.trans hgrows, fun other => ?_⟩
  · rw [Unpacker.writeManifest, Disk.makeDirectories_of_hasDirectory hparent]
    dsimp only
    rw [hindent]
    dsimp only
    rw [hwrite]
  · rw [Disk.get?_put E (Disk.ne_root_of_get? hfree)]
    split
    · next hother => exact .inl (hother ▸ hmanifest.symm)
    · next hother =>
      rcases hwrites.frame other hother with hsame | ⟨-, hmade, -⟩
      · rw [hsame]
        exact h.same other
      · -- The directory that the first run makes is there when the second one begins.
        exact .inl ((h.second.directory other (hlast.directory other hmade)).trans hmade.symm)

section

variable [Text.Codecs]

/-- A bundle that was not changed is unpacked to the same in the second run. -/
theorem unpackFile_eq (h : Again d d' D E)
    (hread : d'.read (Path.ofText path).text = d.read (Path.ofText path).text) :
    u.unpackFile E path = u.unpackFile D path := by
  rw [unpackFile, unpackFile, h.read_eq hread]

/-- A file that is read as before is processed as before, unless its manifest could not be written. -/
theorem process (h : Again d d' D E)
    (hread : d'.read (Path.ofText path).text = d.read (Path.ofText path).text)
    (hends : u.Ends D path D' o e) (he : e ≠ .unwritten) (hlast : D'.Grows d') :
    ∃ E', u.process E path = (E', .ok o) ∧ Again d d' D' E' := by
  have hfile : u.unpackFile E path = u.unpackFile D path := h.unpackFile_eq hread
  cases hends with
  | unreadable _ hproblem hwords =>
    refine ⟨E, ?_, h⟩
    rw [Unpacker.process, hfile, hproblem]
    dsimp only
    rw [hwords]
  | empty hreads hcount =>
    refine ⟨E, ?_, h⟩
    rw [Unpacker.process, hfile, unpackFile_eq_ok_iff.2 ⟨_, hreads, rfl⟩, Walker.walk, if_pos hcount]
    rfl
  | written hreads hcount htarget hwrites =>
    obtain ⟨E', hmanifest, hagain⟩ := h.writeManifest hwrites hlast
    refine ⟨E', ?_, hagain⟩
    rw [Unpacker.process, hfile,
      unpackFile_eq_ok_iff.2 ⟨_, hreads, walk_of_statementCount u.walker hcount⟩, h.home_eq, htarget]
    dsimp only
    rw [hmanifest]
    rfl
  | unwritten _ _ _ _ _ _ => exact absurd rfl he

/-- Files that are read as before are processed as before, unless a manifest could not be written. -/
theorem processAll (h : Again d d' D E) (hrun : u.processAll D paths = (d', .ok outcomes))
    (hread : ∀ path ∈ paths, d'.read (Path.ofText path).text = d.read (Path.ofText path).text)
    (hwritten : ∀ o ∈ outcomes, endingOf o ≠ .unwritten) :
    ∃ E', u.processAll E paths = (E', .ok outcomes) ∧ Again d d' d' E' := by
  induction paths generalizing D E outcomes with
  | nil =>
    cases hrun
    exact ⟨E, rfl, h⟩
  | cons first rest ih =>
    obtain ⟨after, o, others, e, hfirst, hrest, rfl⟩ := ends_of_processAll_cons hrun
    obtain ⟨hreadFirst, hreadRest⟩ := List.forall_mem_cons.1 hread
    obtain ⟨hwrittenFirst, hwrittenRest⟩ := List.forall_mem_cons.1 hwritten
    have he : e ≠ .unwritten := hfirst.eq_endingOf ▸ hwrittenFirst
    obtain ⟨E₁, hprocess, hagain⟩ := h.process hreadFirst hfirst he (processAll_grows hrest)
    obtain ⟨E', hall, hagain'⟩ := ih hagain hrest hreadRest hwrittenRest
    refine ⟨E', ?_, hagain'⟩
    rw [Unpacker.processAll, hprocess]
    dsimp only
    rw [hall]

end

end Again

/-! ## Files with other names -/

section Names

variable {name : String}

/-- Writing a manifest leaves files with other names alone, whether or not it succeeds. -/
theorem writeManifest_file_stays {home : Place} (hname : u.output.manifestName = .text name)
    (hordinary : Disk.Ordinary name) (htarget : u.output.manifestPath home path = .ok target)
    (hfile : d.get? place = some (.file bytes)) (hother : place.getLast? ≠ some name)
    (records : List Record) :
    (u.writeManifest d target records).1.get? place = some (.file bytes) := by
  obtain ⟨directory, hproper, hjoin⟩ := OutputSettings.exists_join_of_manifestPath hname htarget
  rcases hwrite : u.writeManifest d target records with ⟨d', r⟩
  cases r with
  | error p => exact ((built_of_writeManifest hwrite).change place).get?_eq_some hfile
  | ok done =>
    obtain ⟨written, hwrites⟩ := exists_writes (OutputSettings.proper_of_manifestPath htarget) hwrite
    refine (hwrites.frame place ?_).get?_eq_some hfile
    rintro rfl
    obtain ⟨base, -, -, rfl⟩ := hordinary.exists_locate hproper (hjoin ▸ hwrites.locate)
    exact hother List.getLast?_concat

variable [Text.Codecs]

/-- Processing a file leaves files with other names alone, whatever becomes of it. -/
theorem process_file_stays (hname : u.output.manifestName = .text name)
    (hordinary : Disk.Ordinary name)
    (hfile : d.get? place = some (.file bytes)) (hother : place.getLast? ≠ some name)
    (path : String) :
    (u.process d path).1.get? place = some (.file bytes) := by
  rcases process_fst u d path with hsame | ⟨target, records, htarget, hwrite⟩
  · rwa [hsame]
  · rw [hwrite]
    exact writeManifest_file_stays hname hordinary htarget hfile hother records

/-- Processing files leaves files with other names alone, whatever becomes of them. -/
theorem processAll_file_stays_of_name (hname : u.output.manifestName = .text name)
    (hordinary : Disk.Ordinary name) (hfile : d.get? place = some (.file bytes))
    (hother : place.getLast? ≠ some name) (paths : List String) :
    (u.processAll d paths).1.get? place = some (.file bytes) := by
  induction paths generalizing d with
  | nil => exact hfile
  | cons first rest ih =>
    have hfirst := process_file_stays hname hordinary hfile hother first
    rw [Unpacker.processAll]
    rcases hprocess : u.process d first with ⟨after, r⟩
    rw [hprocess] at hfirst
    have hrest := ih hfirst
    cases r with
    | error p => exact hfirst
    | ok o =>
      dsimp only
      rcases hall : u.processAll after rest with ⟨last, rs⟩
      rw [hall] at hrest
      cases rs with
      | error p => exact hrest
      | ok others => exact hrest

end Names

/-! ## What stays -/

section

variable [Text.Codecs]

/-- A file that is there in the beginning has its bytes in the end exactly if the last manifest that
    was put in its place, if any was, has the same bytes. -/
theorem read_eq_iff (h : u.processAll d paths = (d', .ok outcomes))
    (hread : d.read path = .ok bytes) :
    ∃ place, d.locate path = .ok place ∧ (d'.read path = .ok bytes ↔
      ∀ j last text, Outcome.IsLastAt outcomes d' place j last → u.manifestText? last = some text →
        Utf8.encode text.toList = bytes) := by
  obtain ⟨place, hlocate, hplace⟩ := Disk.read_eq_ok_iff.1 hread
  have hlocate' := (processAll_grows h).locate hlocate
  refine ⟨place, hlocate, ?_⟩
  by_cases hlead : ∃ o ∈ outcomes, o.LeadsTo d' place
  · obtain ⟨o, ho, m, hm, hplace'⟩ := hlead
    obtain ⟨i, hi⟩ := List.mem_iff_getElem?.1 ho
    obtain ⟨there, j, last, hthere, -, hlast, text, htext, hfile⟩ :=
      settled_of_processAll h i o m hi hm
    obtain rfl : there = place := Except.ok.inj (hthere.symm.trans hplace')
    rw [Disk.read_of_locate hlocate' hfile, Except.ok.injEq]
    constructor
    · intro hbytes k other text' hother htext'
      obtain rfl : other = last := hother.unique hlast
      rw [← hbytes, Option.some.inj (htext'.symm.trans htext)]
    · intro hall
      exact hall j last text hlast htext
  · -- Nothing was put there.
    have hnone : ∀ o ∈ outcomes, ¬o.LeadsTo d' place := fun o ho hleads => hlead ⟨o, ho, hleads⟩
    have hstays := Disk.read_of_locate hlocate' (processAll_file_stays h hplace hnone)
    refine iff_of_true hstays fun j last text hlast _ => ?_
    exact absurd hlast.leads (hnone last (List.mem_of_getElem? hlast.get))

/-- Files are processed on a disk:

    * whatever becomes of them, a file keeps its bytes if it does not have the name of the manifests;
    * if all have outcomes, a file keeps its bytes exactly if the last manifest that was put in its
      place, if any was, has the same bytes;
    * if then all the files are read as before, and every manifest could be written, processing them
      again has the same outcomes and leaves the disk as it is. -/
theorem inputs_stay_iff (u : Unpacker) (d : Disk) (paths : List String) :
    let d' := (u.processAll d paths).1
    (∀ name, u.output.manifestName = .text name → Disk.Ordinary name → ∀ place bytes,
      d.get? place = some (.file bytes) → place.getLast? ≠ some name →
      d'.get? place = some (.file bytes)) ∧
    ∀ outcomes, (u.processAll d paths).2 = .ok outcomes →
      (∀ path bytes, d.read path = .ok bytes → ∃ place, d.locate path = .ok place ∧
        (d'.read path = .ok bytes ↔ ∀ j last text, Outcome.IsLastAt outcomes d' place j last →
          u.manifestText? last = some text → Utf8.encode text.toList = bytes)) ∧
      ((∀ path ∈ paths, d'.read (Path.ofText path).text = d.read (Path.ofText path).text) →
        (∀ o ∈ outcomes, endingOf o ≠ .unwritten) →
        (u.processAll d' paths).2 = .ok outcomes ∧
          ∀ place, (u.processAll d' paths).1.get? place = d'.get? place) := by
  intro d'
  refine ⟨fun name hname hordinary place bytes hfile hother =>
    processAll_file_stays_of_name hname hordinary hfile hother paths, fun outcomes houtcomes => ?_⟩
  have hrun : u.processAll d paths = (d', .ok outcomes) := Prod.ext rfl houtcomes
  refine ⟨fun path bytes hread => read_eq_iff hrun hread, fun hread hwritten => ?_⟩
  have hstart : Again d d' d d' :=
    ⟨.refl d, processAll_grows hrun, .refl d', fun _ => .inr ⟨rfl, rfl⟩⟩
  obtain ⟨E, hagain, hend⟩ := hstart.processAll hrun hread hwritten
  rw [hagain]
  refine ⟨rfl, fun place => ?_⟩
  rcases hend.same place with hsame | ⟨-, hsame⟩
  · exact hsame
  · exact hsame

end

/-! ## A manifest with the name of a bundle -/

open scoped Usual

namespace SameName

/-- Settings with which manifests have the name of the bundle. -/
def settings : Settings where
  output := { manifestName := .text "app.js" }

/-- A disk with the bundle. -/
def before : Disk where
  entries := [(["app.js"], .file (Utf8.encode "m.main('/a$1')".toList))]

/-- The outcome of the bundle, if its manifest goes to a path. -/
def outcome (manifest : String) : Outcome where
  input := "app.js"
  result := some {
    status := .ok
    records := [{
      kind := .main, size := 14, path := "/a$1",
      identity := { packageName := "a", version := "1" } }] }
  manifest := some manifest

/-- The disk after the bundle was processed with these settings. -/
def after : Disk := ((ofSettings settings).processAll before ["app.js"]).1

/-- The manifest goes to the path of the bundle itself. -/
theorem processAll_eq :
    (ofSettings settings).processAll before ["app.js"] = (after, .ok [outcome "/app.js"]) :=
  Prod.ext rfl (by decide +kernel)

/-- With the default name the manifest goes beside the bundle. -/
theorem processAll_eq_of_default :
    ((ofSettings {}).processAll before ["app.js"]).2 = .ok [outcome "/lasso-stats.json"] := by
  decide +kernel

end SameName

open SameName in
/-- With the settings as they are by default, the bundle stays, and processing it again changes
    nothing. -/
theorem bundle_stays :
    let d' := ((ofSettings {}).processAll before ["app.js"]).1
    d'.get? ["app.js"] = some (.file (Utf8.encode "m.main('/a$1')".toList)) ∧
      ((ofSettings {}).processAll d' ["app.js"]).2 = .ok [outcome "/lasso-stats.json"] ∧
      ∀ place, ((ofSettings {}).processAll d' ["app.js"]).1.get? place = d'.get? place := by
  intro d'
  obtain ⟨hother, hall⟩ := inputs_stay_iff (ofSettings {}) before ["app.js"]
  have hordinary : Disk.Ordinary "lasso-stats.json" := ⟨by decide, by decide, by decide, by decide⟩
  have hstays := hother "lasso-stats.json" rfl hordinary ["app.js"] _ rfl (by decide)
  obtain ⟨hreads, hagain⟩ := hall _ processAll_eq_of_default
  refine ⟨hstays, hagain ?_ ?_⟩
  · have hname : (Path.ofText "app.js").text = "app.js" := rfl
    have hlocate : before.locate "app.js" = .ok ["app.js"] := rfl
    have hlocate' : d'.locate "app.js" = .ok ["app.js"] := by decide +kernel
    refine List.forall_mem_singleton.2 ?_
    rw [hname, Disk.read_of_locate hlocate rfl, Disk.read_of_locate hlocate' hstays]
  · exact List.forall_mem_singleton.2 (by decide)

open SameName in
/-- Processing a bundle may put its manifest in its place, also with settings that pass the check. So
    it is not true that bundles stay and that processing them again has the same outcomes. -/
theorem bundle_overwritten :
    ¬∀ (s : Settings) (d d' : Disk) (paths : List String) (outcomes : List Outcome),
      s.validate = .ok () →
      (ofSettings s).processAll d paths = (d', .ok outcomes) →
      (∀ path ∈ paths, ∀ bytes, d.read path = .ok bytes → d'.read path = .ok bytes) ∧
        ((ofSettings s).processAll d' paths).2 = .ok outcomes := by
  intro h
  have hvalid : settings.validate = .ok () := rfl
  obtain ⟨hstays, -⟩ := h settings before after ["app.js"] _ hvalid processAll_eq
  have hread :=
    hstays "app.js" List.mem_cons_self (Utf8.encode "m.main('/a$1')".toList) (by decide +kernel)
  exact absurd hread (by decide +kernel)

end Unpacker

end BundleManifest
