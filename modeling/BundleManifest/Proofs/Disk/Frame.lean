import BundleManifest.Disk

/-!
# What a change of the disk leaves alone

A disk is only changed by putting something at a place that holds no directory. So directories stay,
and a path that leads to a place still leads there afterwards. This is what makes it possible to speak
about the places of paths without saying when: a path that was followed once can be followed on every
later disk.

A successful change is a single `put`, for a file as well as for a directory, and all that later
modules need to know of it is the place and that there was no directory. Following names is by
recursion on the names, and the lemmas for a list of names put together are the ones by which a path
is split at its parent.

* `Disk.Keeps`: no directory goes away and the working directory stays the same;
* `Keeps.locate`: a path that leads to a place goes on leading there;
* `exists_put_of_write`, `exists_put_of_makeDirectory`: what a successful change is.
-/

namespace BundleManifest.Disk

variable {d d' d'' : Disk} {place next : Place} {name path : String} {names : List String}

/-- No directory goes away between `d` and `d'`, and the working directory is the same. -/
structure Keeps (d d' : Disk) : Prop where
  home : d'.home = d.home
  directory : ∀ place, d.get? place = some .directory → d'.get? place = some .directory

theorem Keeps.refl (d : Disk) : d.Keeps d :=
  ⟨rfl, fun _ h => h⟩

theorem Keeps.trans (h : d.Keeps d') (h' : d'.Keeps d'') : d.Keeps d'' :=
  ⟨h'.home.trans h.home, fun place hplace => h'.directory place (h.directory place hplace)⟩

@[simp]
theorem get?_root (d : Disk) : d.get? [] = some .directory := by
  simp [get?]

theorem ne_root_of_get? (h : d.get? place ≠ some .directory) : place ≠ [] := by
  rintro rfl
  exact h d.get?_root

/-- Putting an entry where there is no directory leaves all directories alone. -/
theorem keeps_put (h : d.get? place ≠ some .directory) (e : Entry) : d.Keeps (d.put place e) where
  home := rfl
  directory other hother := by
    rw [get?_put d (ne_root_of_get? h), if_neg]
    · exact hother
    · rintro rfl
      exact h hother

/-! ## Following names -/

/-- The place to which a name leads from the directory at a place. -/
def entered (place : Place) (name : String) : Except Fault Place :=
  if name = "" ∨ name = Path.hereName then .ok place
  else if name = Path.aboveName then .ok place.dropLast
  else if maxNameBytes < name.utf8ByteSize then .error .tooLong
  else .ok (place ++ [name])

theorem follow_cons_of_directory (h : d.get? place = some .directory) :
    d.follow place (name :: names) = entered place name >>= fun next => d.follow next names := by
  simp only [follow, h, entered]
  repeat' split
  all_goals rfl

/-- A first name is followed exactly from a directory, and the other names from the place to which it
    leads. -/
theorem follow_cons_eq_ok_iff :
    d.follow place (name :: names) = .ok next ↔
      d.get? place = some .directory ∧
        ∃ between, entered place name = .ok between ∧ d.follow between names = .ok next := by
  constructor
  · intro h
    have hplace : d.get? place = some .directory := by
      rw [follow] at h
      split at h <;> simp_all
    rw [follow_cons_of_directory hplace] at h
    cases hname : entered place name with
    | error fault => rw [hname] at h; cases h
    | ok between =>
      rw [hname] at h
      exact ⟨hplace, between, rfl, h⟩
  · rintro ⟨hplace, between, hname, hnames⟩
    rw [follow_cons_of_directory hplace, hname]
    exact hnames

/-- Names are followed one part after the other. -/
theorem follow_append_eq_ok_iff {front back : List String} :
    d.follow place (front ++ back) = .ok next ↔
      ∃ between, d.follow place front = .ok between ∧ d.follow between back = .ok next := by
  induction front generalizing place with
  | nil => simp [follow]
  | cons name front ih =>
    rw [List.cons_append, follow_cons_eq_ok_iff]
    simp only [ih, follow_cons_eq_ok_iff]
    grind

/-- Names that could be followed lead to the same place on the later disk. -/
theorem Keeps.follow (hd : d.Keeps d') (h : d.follow place names = .ok next) :
    d'.follow place names = .ok next := by
  induction names generalizing place with
  | nil => simpa [Disk.follow] using h
  | cons name names ih =>
    obtain ⟨hplace, between, hname, hnames⟩ := follow_cons_eq_ok_iff.1 h
    exact follow_cons_eq_ok_iff.2 ⟨hd.directory place hplace, between, hname, ih hnames⟩

/-! ## Locating paths -/

/-- Where a path begins. -/
def start (d : Disk) (path : String) : Place :=
  if path.toList.head? = some Path.separator then [] else d.home

/-- The names that are followed for a path. -/
def namesIn (path : String) : List String :=
  (Text.pieces Path.separator path.toList).map String.ofList

/-- A path leads to a place if its text can be a path at all, and its names can be followed to the
    place. -/
theorem locate_eq_ok_iff :
    d.locate path = .ok place ↔
      '\x00' ∉ path.toList ∧ path ≠ "" ∧ path.utf8ByteSize ≤ maxPathBytes ∧
        d.follow (d.start path) (namesIn path) = .ok place := by
  rw [locate, ← start, ← namesIn]
  by_cases hchars : '\x00' ∈ path.toList
  · simp [hchars]
  by_cases hpath : path = ""
  · simp [hpath]
  by_cases hsize : maxPathBytes < path.utf8ByteSize
  · simp [hchars, hpath, hsize, Nat.not_le.2 hsize]
  · simp [hchars, hpath, hsize, Nat.le_of_not_lt hsize]

theorem Keeps.locate (hd : d.Keeps d') (h : d.locate path = .ok place) :
    d'.locate path = .ok place := by
  obtain ⟨hchars, hpath, hsize, hfollow⟩ := locate_eq_ok_iff.1 h
  have hstart : d'.start path = d.start path := by rw [start, start, hd.home]
  exact locate_eq_ok_iff.2 ⟨hchars, hpath, hsize, hstart ▸ hd.follow hfollow⟩

theorem hasDirectory_iff :
    d.hasDirectory path = true ↔ ∃ place, d.locate path = .ok place ∧
      d.get? place = some .directory := by
  rw [hasDirectory, find?]
  cases d.locate path <;> simp

/-- A path that led to a directory goes on leading to one. -/
theorem Keeps.hasDirectory (hd : d.Keeps d') (h : d.hasDirectory path = true) :
    d'.hasDirectory path = true := by
  obtain ⟨place, hpath, hplace⟩ := hasDirectory_iff.1 h
  exact hasDirectory_iff.2 ⟨place, hd.locate hpath, hd.directory place hplace⟩

/-! ## Changes -/

theorem read_of_locate {bytes : List UInt8} (h : d.locate path = .ok place)
    (hplace : d.get? place = some (.file bytes)) : d.read path = .ok bytes := by
  simp [read, h, hplace]

/-- The bytes that are read at a path are those of the file at the place to which it leads. -/
theorem read_eq_ok_iff {bytes : List UInt8} :
    d.read path = .ok bytes ↔ ∃ place, d.locate path = .ok place ∧
      d.get? place = some (.file bytes) := by
  constructor
  · intro h
    rw [read] at h
    cases hlocate : d.locate path with
    | error fault =>
      rw [hlocate] at h
      cases h
    | ok place =>
      rw [hlocate] at h
      dsimp only at h
      split at h
      · cases h
      · cases h
      · next hplace =>
        cases h
        exact ⟨place, rfl, hplace⟩
  · rintro ⟨place, hlocate, hplace⟩
    exact read_of_locate hlocate hplace

/-- A file is only written at a place without a directory, and nothing else is changed. -/
theorem exists_put_of_write {bytes : List UInt8} (h : d.write path bytes = .ok d') :
    ∃ place, d.locate path = .ok place ∧ d.get? place ≠ some .directory ∧
      d' = d.put place (.file bytes) := by
  simp only [write] at h
  split at h
  · cases h
  · next place hlocate =>
    split at h
    · cases h
    · next hfile =>
      rw [not_or] at hfile
      rw [if_neg hfile.1] at hlocate
      exact ⟨place, hlocate, hfile.2, by simpa using h.symm⟩

/-- A directory is only made at a place where nothing is, and nothing else is changed. -/
theorem exists_put_of_makeDirectory (h : d.makeDirectory path = .ok d') :
    ∃ place, d.locate path = .ok place ∧ d.get? place = none ∧ d' = d.put place .directory := by
  rw [makeDirectory] at h
  split at h
  · cases h
  · next place hlocate =>
    split at h
    · cases h
    · next hnone => exact ⟨place, hlocate, by simpa using hnone, by simpa using h.symm⟩

end BundleManifest.Disk
