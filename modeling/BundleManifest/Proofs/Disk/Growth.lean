import BundleManifest.Proofs.Disk.Directories

/-!
# Growing disks

Files may be overwritten and things may come to be where there was nothing, but a directory stays a
directory and a file stays a file. On a disk that grows in this way the answers to most questions stay
the same.

When something was missing it may be there later, and this is the only answer that can change from an
error to something else. All others stay, since they are about directories and files on the way, which
stay what they are. The order is reflexive and transitive, so that a whole batch grows the disk if
each file does.

* `Disk.Grows`: the order of these changes;
* `Grows.read_error`: what cannot be read goes on to be refused in the same way, unless there was
  nothing;
* `read_between`: what is refused in the same way at the beginning and at the end is refused so in
  between;
* `makeDirectories_of_hasDirectory`: nothing is made where there is a directory;
* `exists_locate_of_join`: a name that was put behind a path is followed from where the path leads.
-/

namespace BundleManifest.Disk

variable {d d' d'' : Disk} {place next : Place} {path : String} {names : List String} {fault : Fault}
  {bytes : List UInt8} {e : Error} {p : Path}

/-- Directories stay directories and files stay files between `d` and `d'`, and the working directory
    is the same. -/
structure Grows (d d' : Disk) : Prop extends Keeps d d' where
  file : ∀ place bytes, d.get? place = some (.file bytes) →
    ∃ bytes', d'.get? place = some (.file bytes')

theorem Grows.refl (d : Disk) : d.Grows d :=
  ⟨.refl d, fun _ bytes h => ⟨bytes, h⟩⟩

theorem Grows.trans (h : d.Grows d') (h' : d'.Grows d'') : d.Grows d'' := by
  refine ⟨h.toKeeps.trans h'.toKeeps, fun place bytes hplace => ?_⟩
  obtain ⟨bytes', hplace'⟩ := h.file place bytes hplace
  exact h'.file place bytes' hplace'

theorem Built.grows (h : d.Built d' p) : d.Grows d' :=
  ⟨h.keeps, fun place bytes hplace => ⟨bytes, (h.change place).get?_eq_some hplace⟩⟩

/-! ## Refusals -/

/-- Names that could not be followed fail in the same way later, unless something was missing. -/
theorem Grows.follow_error (h : d.Grows d') (hfault : fault ≠ .missing)
    (hfollow : d.follow place names = .error fault) : d'.follow place names = .error fault := by
  induction names generalizing place with
  | nil => cases hfollow
  | cons name names ih =>
    cases hplace : d.get? place with
    | none =>
      rw [follow, hplace] at hfollow
      exact absurd (Except.error.inj hfollow).symm hfault
    | some entry =>
      cases entry with
      | file bytes =>
        obtain ⟨bytes', hplace'⟩ := h.file place bytes hplace
        rw [follow, hplace] at hfollow
        rw [follow, hplace']
        exact hfollow
      | directory =>
        rw [follow_cons_of_directory hplace] at hfollow
        rw [follow_cons_of_directory (h.directory place hplace)]
        cases hname : entered place name with
        | error fault' =>
          rw [hname] at hfollow
          exact hfollow
        | ok between =>
          rw [hname] at hfollow
          exact ih hfollow

theorem Grows.locate_error (h : d.Grows d') (hfault : fault ≠ .missing)
    (hlocate : d.locate path = .error fault) :
    d'.locate path = .error fault := by
  have hstart : d'.start path = d.start path := by rw [start, start, h.home]
  rw [locate, ← start, ← namesIn] at hlocate ⊢
  rw [hstart]
  -- Only the last question depends on the disk.
  split at hlocate
  · next hchar => rwa [if_pos hchar]
  next hchar =>
  rw [if_neg hchar]
  split at hlocate
  · next hpath => rwa [if_pos hpath]
  next hpath =>
  rw [if_neg hpath]
  split at hlocate
  · next hsize => rwa [if_pos hsize]
  next hsize =>
  rw [if_neg hsize]
  exact h.follow_error hfault hlocate

/-- A file that could be read can be read later, perhaps with other bytes in it. -/
theorem Grows.read_ok (h : d.Grows d') (hread : d.read path = .ok bytes) :
    ∃ bytes', d'.read path = .ok bytes' := by
  obtain ⟨place, hlocate, hplace⟩ := read_eq_ok_iff.1 hread
  obtain ⟨bytes', hplace'⟩ := h.file place bytes hplace
  exact ⟨bytes', read_of_locate (h.locate hlocate) hplace'⟩

/-- What is refused for another reason than that there is nothing is refused for this reason later
    on. -/
theorem Grows.read_error (h : d.Grows d') (hfault : e.fault ≠ .missing)
    (hread : d.read path = .error e) :
    d'.read path = .error e := by
  rw [read] at hread ⊢
  cases hlocate : d.locate path with
  | error fault =>
    rw [hlocate] at hread
    cases hread
    rw [h.locate_error hfault hlocate]
  | ok place =>
    rw [hlocate] at hread
    rw [h.locate hlocate]
    dsimp only at hread ⊢
    cases hplace : d.get? place with
    | none =>
      rw [hplace] at hread
      cases hread
      exact absurd rfl hfault
    | some entry =>
      cases entry with
      | file bytes =>
        rw [hplace] at hread
        cases hread
      | directory =>
        rw [hplace] at hread
        rw [h.directory place hplace]
        exact hread

/-- An error in reading tells the path that was to be read. -/
theorem path_of_read_error (hread : d.read path = .error e) : e.path = path := by
  rw [read] at hread
  repeat' split at hread
  all_goals cases hread
  all_goals rfl

/-- What is refused in the same way before and after is refused so in between. -/
theorem read_between (h : d.Grows d') (h' : d'.Grows d'') (hread : d.read path = .error e)
    (hread'' : d''.read path = .error e) : d'.read path = .error e := by
  by_cases hfault : e.fault = .missing
  · cases hread' : d'.read path with
    | ok bytes =>
      obtain ⟨bytes', hok⟩ := h'.read_ok hread'
      cases hread''.symm.trans hok
    | error e' =>
      by_cases hfault' : e'.fault = .missing
      · -- Both are refusals of the same path for the same reason.
        have hpath := (path_of_read_error hread).trans (path_of_read_error hread').symm
        cases e
        cases e'
        simp only at hfault hfault' hpath
        rw [hfault, hfault', hpath]
      · exact (h'.read_error hfault' hread').symm.trans hread''
  · exact h.read_error hfault hread

/-! ## Directories that are there -/

/-- Nothing is made at a path that leads to a directory. -/
theorem makeDirectories_of_hasDirectory (h : d.hasDirectory p.text = true) :
    d.makeDirectories p = (d, .ok ()) := by
  obtain ⟨place, hlocate, hplace⟩ := hasDirectory_iff.1 h
  have hmake : d.makeDirectory p.text = .error .occupied := by
    rw [makeDirectory, hlocate]
    dsimp only
    rw [hplace, if_pos Option.isSome_some]
  rw [makeDirectories, hmake]
  exact if_pos ⟨by decide, h⟩

/-! ## Files that can be written -/

theorem namesIn_empty : namesIn "" = [""] := by
  decide

/-- A path that ends with a separator leads to a directory. -/
theorem get?_of_getLast? (hlast : path.toList.getLast? = some Path.separator)
    (hlocate : d.locate path = .ok place) :
    d.get? place = some .directory := by
  obtain ⟨front, hfront⟩ : ∃ front, path.toList = front ++ [Path.separator] := by
    obtain ⟨front, hfront⟩ := List.getLast?_eq_some_iff.1 hlast
    exact ⟨front, hfront⟩
  have hpath : path = String.ofList front ++ "/" ++ "" := by
    rw [← String.toList_inj, hfront]
    simp [Path.separator]
  obtain ⟨-, -, -, hfollow⟩ := locate_eq_ok_iff.1 hlocate
  rw [hpath, namesIn_append, namesIn_empty, follow_append_eq_ok_iff] at hfollow
  obtain ⟨between, -, hempty⟩ := hfollow
  -- The empty name behind the separator leads from a directory to itself.
  obtain ⟨hdirectory, next, hnext, hend⟩ := follow_cons_eq_ok_iff.1 hempty
  obtain rfl : between = next := Except.ok.inj hnext
  obtain rfl : between = place := Except.ok.inj hend
  exact hdirectory

/-- A file can be written wherever a path leads to no directory. -/
theorem write_of_locate (bytes : List UInt8) (hlocate : d.locate path = .ok place)
    (hplace : d.get? place ≠ some .directory) :
    d.write path bytes = .ok (d.put place (.file bytes)) := by
  have hfolder : path.toList.getLast? ≠ some Path.separator :=
    fun hlast => hplace (get?_of_getLast? hlast hlocate)
  simp [write, hfolder, hlocate, hplace]

/-- Putting the same thing at a place twice is putting it there once. -/
theorem put_put (d : Disk) (place : Place) (e : Entry) :
    (d.put place e).put place e = d.put place e := by
  have hentries : ∀ entries, putIn place e (putIn place e entries) = putIn place e entries := by
    intro entries
    induction entries with
    | nil => simp [putIn]
    | cons head rest ih => by_cases h : head.1 = place <;> simp [putIn, h, ih]
  rw [put, put, hentries]

/-- A file that was written can be read, and writing it again changes nothing. -/
theorem read_of_write {bytes : List UInt8} (h : d.write path bytes = .ok d') :
    d'.read path = .ok bytes ∧ d'.write path bytes = .ok d' := by
  obtain ⟨place, hlocate, hplace, rfl⟩ := exists_put_of_write h
  have hlocate' := (keeps_put hplace (.file bytes)).locate hlocate
  have hput : (d.put place (.file bytes)).get? place = some (.file bytes) := by
    rw [get?_put d (ne_root_of_get? hplace), if_pos rfl]
  refine ⟨read_of_locate hlocate' hput, ?_⟩
  rw [write_of_locate _ hlocate' (by simp [hput]), put_put]

/-- A disk grows when a file is put where there is no directory. -/
theorem grows_put (h : d.get? place ≠ some .directory) (bytes : List UInt8) :
    d.Grows (d.put place (.file bytes)) := by
  refine ⟨keeps_put h _, fun other bytes' hother => ?_⟩
  rw [get?_put d (ne_root_of_get? h)]
  split
  · exact ⟨bytes, rfl⟩
  · exact ⟨bytes', hother⟩

/-! ## The last name of a path -/

/-- A name that is neither empty nor the name of a directory from which one comes to it. -/
structure Ordinary (name : String) : Prop where
  ne_empty : name ≠ ""
  bare : Path.separator ∉ name.toList
  ne_here : name ≠ Path.hereName
  ne_above : name ≠ Path.aboveName

section Bare

variable {name : String}

theorem namesIn_of_bare (hbare : Path.separator ∉ name.toList) : namesIn name = [name] := by
  rw [namesIn, Text.pieces_of_notMem hbare, List.map_singleton, String.ofList_toList]

theorem head?_ne_separator (hbare : Path.separator ∉ name.toList) :
    name.toList.head? ≠ some Path.separator :=
  fun hhead => hbare (List.mem_of_head? hhead)

/-- A name without separators is read as a path with this name, unless it means nothing. -/
theorem ofText_of_bare (hne : name ≠ "") (hbare : Path.separator ∉ name.toList)
    (hhere : name ≠ Path.hereName) : Path.ofText name = ⟨.relative, [name]⟩ := by
  have hhead : name.toList.takeWhile (· = Path.separator) = [] := by
    cases hchars : name.toList with
    | nil => rfl
    | cons c rest =>
      have hc : c ≠ Path.separator := by
        rintro rfl
        exact hbare (hchars ▸ List.mem_cons_self)
      exact List.takeWhile_cons_of_neg (by simpa using hc)
  have hnames : Path.namesOf name.toList = [name] := by
    rw [Path.namesOf, Text.pieces_of_notMem hbare, List.map_singleton, String.ofList_toList]
    simp [hne, hhere]
  rw [Path.ofText, Path.Root.ofText, hhead, hnames]
  rfl

theorem join_of_bare (hne : name ≠ "") (hbare : Path.separator ∉ name.toList)
    (hhere : name ≠ Path.hereName)
    (p : Path) : p.join name = { p with names := p.names ++ [name] } := by
  rw [Path.join, ofText_of_bare hne hbare hhere]
  rfl

/-- The text of a path with a bare name behind it. -/
theorem text_join_of_bare (hne : name ≠ "") (hbare : Path.separator ∉ name.toList)
    (hhere : name ≠ Path.hereName) (p : Path) :
    (p.join name).text = if p.names = [] then p.root.text ++ name else p.text ++ "/" ++ name := by
  have htext : (p.join name).text = p.root.text ++ "/".intercalate (p.names ++ [name]) := by
    rw [join_of_bare hne hbare hhere, Path.text_of_names_ne_nil (by simp)]
  split
  · next hnames => rw [htext, hnames, List.nil_append, String.intercalate_singleton]
  · next hnames =>
    rw [htext, String.intercalate_append_of_ne_nil hnames (List.cons_ne_nil _ _),
      String.intercalate_singleton, Path.text_of_names_ne_nil hnames]
    simp only [String.append_assoc]

/-- A path from the root that has no names leads to the root. -/
theorem locate_of_rooted (hnames : p.names = []) (hroot : p.root ≠ .relative) :
    d.locate p.text = .ok [] := by
  have hlocate := locate_of_names_eq_nil (d := d) hnames fun hrelative => absurd hrelative hroot
  rwa [if_neg hroot] at hlocate

/-- A path behind which a name was put leads to where the name leads from the directory at the
    path. -/
theorem exists_locate_of_join (hp : p.Proper) (hne : name ≠ "") (hbare : Path.separator ∉ name.toList)
    (hhere : name ≠ Path.hereName) (h : d.locate (p.join name).text = .ok place) :
    ∃ base, d.locate p.text = .ok base ∧ d.get? base = some .directory ∧
      entered base name = .ok place := by
  -- It is enough to know where the name is followed from.
  suffices hbase : ∃ base, d.locate p.text = .ok base ∧ d.follow base [name] = .ok place by
    obtain ⟨base, hlocate, hfollow⟩ := hbase
    obtain ⟨hdirectory, next, hnext, hend⟩ := follow_cons_eq_ok_iff.1 hfollow
    obtain rfl : next = place := Except.ok.inj hend
    exact ⟨base, hlocate, hdirectory, hnext⟩
  rw [text_join_of_bare hne hbare hhere] at h
  split at h
  · next hnames =>
    obtain ⟨-, -, -, hfollow⟩ := locate_eq_ok_iff.1 h
    cases hroot : p.root with
    | relative =>
      have hstart : d.start name = d.home := if_neg (head?_ne_separator hbare)
      rw [hroot, Path.Root.text, String.empty_append, hstart, namesIn_of_bare hbare] at hfollow
      have hhome := (follow_cons_eq_ok_iff.1 hfollow).1
      exact ⟨_, locate_of_names_eq_nil hnames fun _ => hhome, by rwa [if_pos hroot]⟩
    | single =>
      have hnamesIn : namesIn ("/" ++ name) = ["", name] :=
        (namesIn_append "" name).trans
        (by rw [namesIn_of_bare hbare, namesIn_empty, List.singleton_append])
      have hstart : d.start ("/" ++ name) = [] := if_pos (by simp [Path.separator])
      rw [hroot, Path.Root.text, hstart, hnamesIn, follow_cons_eq_ok_iff] at hfollow
      obtain ⟨-, next, hnext, hfollow⟩ := hfollow
      obtain rfl : [] = next := Except.ok.inj hnext
      exact ⟨[], locate_of_rooted hnames (by rw [hroot]; decide), hfollow⟩
    | double =>
      rw [hroot] at h
      obtain ⟨between, hbetween, -, hfollow⟩ :=
        exists_locate_of_append (s := "/") (t := name) (by decide) h
      have hstart : d.locate "/" = .ok [] := @locate_root d .single (by decide)
      obtain rfl : [] = between := Except.ok.inj (hstart.symm.trans hbetween)
      rw [namesIn_of_bare hbare] at hfollow
      exact ⟨[], locate_of_rooted hnames (by rw [hroot]; decide), hfollow⟩
  · obtain ⟨between, hbetween, -, hfollow⟩ := exists_locate_of_append hp.text_ne_empty h
    exact ⟨between, hbetween, by rwa [namesIn_of_bare hbare] at hfollow⟩

/-- What a path with an ordinary last name leads to is in the directory to which the rest of the path
    leads. -/
theorem Ordinary.exists_locate (hname : Ordinary name) (hp : p.Proper)
    (h : d.locate (p.join name).text = .ok place) :
    ∃ base, d.locate p.text = .ok base ∧ d.get? base = some .directory ∧ place = base ++ [name] := by
  obtain ⟨base, hbase, hdirectory, hentered⟩ :=
    exists_locate_of_join hp hname.ne_empty hname.bare hname.ne_here h
  refine ⟨base, hbase, hdirectory, ?_⟩
  rw [entered, if_neg (by simp [hname.ne_empty, hname.ne_here]), if_neg hname.ne_above] at hentered
  split at hentered
  · cases hentered
  · exact (Except.ok.inj hentered).symm

end Bare

end BundleManifest.Disk
