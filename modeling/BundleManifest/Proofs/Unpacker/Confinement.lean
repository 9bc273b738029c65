import BundleManifest.Proofs.Disk.Growth
import BundleManifest.Proofs.Disk.Rooted
import BundleManifest.Proofs.Settings.Valid
import BundleManifest.Proofs.Unpacker.Ending

/-!
# Where manifests stay

A manifest goes to the directory that the settings name, or else to the directory of its bundle
(`OutputSettings.directoryFor`). The check of settings lets every name of a manifest pass that is not
empty and has no separator. It means to let names of files pass, and two of these names are none:

* `..` is kept in a path, and leads to the directory above; there is a directory already, so that no
  manifest can be written there (`Rooted.exists_base`);
* `.` is not kept. The path of the manifest is then that of the directory, and if there is none yet,
  the manifest is written in its place.

So a manifest is a file of its own name in the directory, exactly if the name is not `.`
(`Unpacker.manifest_confined`), and nothing else changes but that the directories on the way to it are
made.
-/

namespace BundleManifest

variable {s : OutputSettings} {home : Place} {path name : String} {d d' : Disk} {place : Place}
  {directory target : Path}

/-! ## The path of a manifest -/

namespace OutputSettings

/-- The directory for the manifest of a bundle. -/
def directoryFor (s : OutputSettings) (home : Place) (path : String) : Path :=
  match s.directory with
  | .text directory =>
    if directory = "" then ((Path.ofText path).resolve home).parent else Path.ofText directory
  | _ => ((Path.ofText path).resolve home).parent

/-- The directory for manifests is a path that is followed name by name. -/
theorem proper_directoryFor (s : OutputSettings) (home : Place) (path : String) :
    (s.directoryFor home path).Proper := by
  have hresolve : ((Path.ofText path).resolve home).parent.Proper := fun hroot => by
    simp [Path.resolve, Path.parent] at hroot
  rw [directoryFor]
  split
  · split
    · exact hresolve
    · exact Path.proper_ofText _
  · exact hresolve

/-- A manifest goes to the directory for it, under its name. Only the path of the bundle may make this
    impossible, if it is asked for the directory. -/
theorem manifestPath_eq (hname : s.manifestName = .text name)
    (hdirectory : s.directory = .null ∨ ∃ text, s.directory = .text text) :
    s.manifestPath home path =
      if s.directory.truthy = true ∨ '\x00' ∉ path.toList then
        .ok ((s.directoryFor home path).join name)
      else .error (.disk ⟨.badCharacter, path⟩) := by
  have hbundle (hempty : s.directory = .null ∨ s.directory = .text "") : s.manifestPath home path =
      if s.directory.truthy = true ∨ '\x00' ∉ path.toList then
        .ok ((s.directoryFor home path).join name)
      else .error (.disk ⟨.badCharacter, path⟩) := by
    have htruthy : s.directory.truthy = false := by rcases hempty with h | h <;> rw [h] <;> rfl
    have hfor : s.directoryFor home path = ((Path.ofText path).resolve home).parent := by
      rw [directoryFor]
      rcases hempty with h | h <;> rw [h]
      exact if_pos rfl
    rw [manifestPath, hname, htruthy, hfor]
    by_cases hchar : '\x00' ∈ path.toList
    · simp [hchar, bind, Except.bind]
    · simp [hchar, bind, Except.bind, pure, Except.pure]
  rcases hdirectory with hnull | ⟨text, htext⟩
  · exact hbundle (.inl hnull)
  · by_cases hempty : text = ""
    · exact hbundle (.inr (hempty ▸ htext))
    · have htruthy : s.directory.truthy = true := by
        rw [htext]
        exact decide_eq_true hempty
      rw [if_pos (.inl htruthy), manifestPath, hname, if_pos htruthy, directoryFor, htext]
      dsimp only
      rw [if_neg hempty]
      rfl

end OutputSettings

/-- A path behind which a name without separators was put is the path of a child with this name,
    unless the name means nothing. -/
theorem Path.child_join_iff (hne : name ≠ "") (hbare : Path.separator ∉ name.toList) :
    (directory.join name).parent = directory ∧ (directory.join name).name? = some name ↔
      name ≠ Path.hereName := by
  by_cases hhere : name = Path.hereName
  · refine iff_of_false ?_ (not_not.2 hhere)
    have hjoin : directory.join name = directory := by
      rw [hhere]
      exact congrArg (Path.mk directory.root) (List.append_nil _)
    rintro ⟨hparent, hlast⟩
    rw [hjoin] at hparent hlast
    -- A path that is its own directory has no names.
    have hnames : directory.names.dropLast = directory.names := congrArg Path.names hparent
    have hlength := congrArg List.length hnames
    rw [List.length_dropLast] at hlength
    rw [Path.name?, List.length_eq_zero_iff.1 (by omega : directory.names.length = 0)] at hlast
    cases hlast
  · refine iff_of_true ?_ hhere
    rw [Disk.join_of_bare hne hbare hhere]
    exact ⟨by rw [Path.parent, List.dropLast_concat], List.getLast?_concat⟩

/-! ## The file of a manifest -/

/-- A file at a path behind which a name was put is in the directory at the path, and has the name. -/
theorem Disk.Rooted.exists_base (h : d.Rooted) (hdirectory : directory.Proper) (hne : name ≠ "")
    (hbare : Path.separator ∉ name.toList) (hhere : name ≠ Path.hereName) {bytes : List UInt8}
    (hlocate : d.locate (directory.join name).text = .ok place)
    (hfile : d.get? place = some (.file bytes)) :
    ∃ base, d.locate directory.text = .ok base ∧ place = base ++ [name] := by
  by_cases habove : name = Path.aboveName
  · -- The directory above is no file.
    obtain ⟨base, -, hbase, hentered⟩ := exists_locate_of_join hdirectory hne hbare hhere hlocate
    rw [entered, if_neg (not_or.2 ⟨hne, hhere⟩), if_pos habove] at hentered
    obtain rfl := Except.ok.inj hentered
    rw [h.above _ _ hbase] at hfile
    cases hfile
  · obtain ⟨base, hbase, -, hplace⟩ :=
      Ordinary.exists_locate ⟨hne, hbare, hhere, habove⟩ hdirectory hlocate
    exact ⟨base, hbase, hplace⟩

namespace Unpacker

variable {u : Unpacker} {records : List Record}

/-- Writing a manifest, whether or not it succeeds, leaves a rooted disk. -/
theorem writeManifest_rooted (h : d.Rooted) : (u.writeManifest d target records).1.Rooted := by
  rw [writeManifest]
  split
  · next hmake => exact h.makeDirectories hmake
  · next hmake =>
    have hmade := h.makeDirectories hmake
    split
    · exact hmade
    · split
      · exact hmade
      · next hwrite => exact hmade.write hwrite

/-- Writing a manifest, whether or not it succeeds, changes nothing but the directories above it and
    what its path leads to. -/
theorem writeManifest_change (u : Unpacker) (d : Disk) (records : List Record)
    (htarget : target.Proper) (place : Place) :
    let d' := (u.writeManifest d target records).1
    d.StaysOrMade d' target.parent place ∨
      d'.locate target.text = .ok place ∧ ∃ bytes, d'.get? place = some (.file bytes) := by
  rcases hwrite : u.writeManifest d target records with ⟨d', r⟩
  cases r with
  | error p => exact .inl ((built_of_writeManifest hwrite).change place)
  | ok done =>
    obtain ⟨written, hwrites⟩ := exists_writes htarget hwrite
    by_cases hplace : place = written
    · obtain ⟨indent, -, hmanifest⟩ := hwrites.manifest
      exact .inr (hplace ▸ ⟨hwrites.locate, _, hmanifest⟩)
    · exact .inl (hwrites.frame place hplace)

/-- The settings pass the check, and the directory for manifests, if there is one, is a text.

    * A manifest goes to a child of the directory for it that has the name of manifests, exactly if
      this is not `.`. The path of the bundle may only make this impossible if it can be no path and
      is asked for the directory.
    * Unless the name is `.`, processing a file, whatever becomes of it, leaves everything on the disk
      as it is, but that directories are made on the way to the directory for its manifest, and that a
      file with the name of manifests may be put in it. -/
theorem manifest_confined [Text.Codecs] (s : Settings) (u : Unpacker) (name : String)
    (hvalid : s.validate = .ok ())
    (hdirectory : s.output.directory = .null ∨ ∃ text, s.output.directory = .text text)
    (hname : s.output.manifestName = .text name) (hu : u.output = s.output) :
    (∀ (home : Place) (path : String),
      if s.output.directory.truthy = true ∨ '\x00' ∉ path.toList then
        ∃ target, u.output.manifestPath home path = .ok target ∧
          (target.parent = s.output.directoryFor home path ∧ target.name? = some name ↔
            name ≠ Path.hereName)
      else u.output.manifestPath home path = .error (.disk ⟨.badCharacter, path⟩)) ∧
    (name ≠ Path.hereName → ∀ (d : Disk) (path : String), d.Rooted →
      let d' := (u.process d path).1
      let directory := s.output.directoryFor d.home path
      d'.Rooted ∧ ∀ place, d.StaysOrMade d' directory place ∨
        ∃ base bytes, d'.locate directory.text = .ok base ∧ place = base ++ [name] ∧
          d'.get? place = some (.file bytes)) := by
  obtain ⟨name', hname', hne, hbare⟩ := (Settings.validate_eq_ok_iff.1 hvalid).manifestName
  obtain rfl : name' = name := Value.text.inj (hname'.symm.trans hname)
  refine ⟨fun home path => ?_, fun hhere d path hrooted => ?_⟩
  · rw [hu, OutputSettings.manifestPath_eq hname hdirectory]
    split
    · exact ⟨_, rfl, Path.child_join_iff hne hbare⟩
    · rfl
  · rcases process_fst u d path with hsame | ⟨target, records, htarget, hwrite⟩
    · dsimp only
      rw [hsame]
      exact ⟨hrooted, fun place => .inl (.inl rfl)⟩
    · rw [hu, OutputSettings.manifestPath_eq hname hdirectory] at htarget
      split at htarget
      · obtain rfl := Except.ok.inj htarget
        dsimp only
        rw [hwrite]
        have hproper := s.output.proper_directoryFor d.home path
        have hrooted' :
            (u.writeManifest d ((s.output.directoryFor d.home path).join name') records).1.Rooted :=
          writeManifest_rooted hrooted
        refine ⟨hrooted', fun place => ?_⟩
        have hchange := writeManifest_change u d records (hproper.join name') place
        rw [((Path.child_join_iff hne hbare).2 hhere).1] at hchange
        rcases hchange with hstays | ⟨hlocate, bytes, hfile⟩
        · exact .inl hstays
        · obtain ⟨base, hbase, hplace⟩ := hrooted'.exists_base hproper hne hbare hhere hlocate hfile
          exact .inr ⟨base, bytes, hbase, hplace, hfile⟩
      · cases htarget

/-! ## A manifest with the name of the directory itself -/

open scoped Usual

namespace HereName

/-- A disk with a bundle. -/
def before : Disk where
  entries := [(["app.js"], .file (Utf8.encode "m.run()".toList))]

theorem before_rooted : before.Rooted :=
  have hlocate : Disk.locate {} "app.js" = .ok ["app.js"] := rfl
  Disk.rooted_empty.put hlocate (by decide) _

/-- Settings with a directory that is not there, and a name for manifests. -/
def settings (name : String) : Settings where
  output := { manifestName := .text name, directory := .text "out" }

/-- The manifest of the bundle, which has no record. -/
def manifest : List UInt8 :=
  Utf8.encode (Manifest.text (some [' ', ' ']) []).toList

end HereName

open HereName in
/-- With a name of a file, the manifest is put in the directory that is made for it. -/
theorem manifest_confined_of_name :
    let s := settings "a.json"
    let u := ofSettings s
    let d' := (u.process before "app.js").1
    s.validate = .ok () ∧ u.output.manifestPath [] "app.js" = .ok ⟨.relative, ["out", "a.json"]⟩ ∧
      d'.get? ["out", "a.json"] = some (.file manifest) ∧
      ∀ place, before.StaysOrMade d' (Path.ofText "out") place ∨
        ∃ base bytes, d'.locate "out" = .ok base ∧ place = base ++ ["a.json"] ∧
          d'.get? place = some (.file bytes) := by
  intro s u d'
  have hvalid : s.validate = .ok () := rfl
  obtain ⟨-, hprocess⟩ := manifest_confined s u "a.json" hvalid (.inr ⟨"out", rfl⟩) rfl rfl
  exact ⟨hvalid, by decide +kernel, by decide +kernel,
    (hprocess (by decide) before "app.js" before_rooted).2⟩

open HereName in
/-- The name `.` passes the check. The path of the manifest is then no child of the directory, and the
    manifest is a file in the place of the directory. -/
theorem manifest_not_confined :
    let s := settings Path.hereName
    let d' := ((ofSettings s).process before "app.js").1
    s.validate = .ok () ∧
    s.output.manifestPath [] "app.js" = .ok (s.output.directoryFor [] "app.js") ∧
      (s.output.directoryFor [] "app.js").parent ≠ s.output.directoryFor [] "app.js" ∧
      before.get? ["out"] = none ∧ d'.get? ["out"] = some (.file manifest) := by
  intro s d'
  exact ⟨by decide +kernel, by decide +kernel, by decide +kernel, by decide +kernel, by
    decide +kernel⟩

end Unpacker

end BundleManifest
