import BundleManifest.Proofs.Disk.Directories

/-!
# Disks on which everything is in a directory

On a disk as it is found, the place above anything is a directory, and so is the working directory:
the disk is *rooted*. Nothing that is done to a disk changes this, since a path only leads to places
in directories (`Rooted.get?_dropLast_of_locate`), and only there something is put.

The names `.` and `..` are followed without a look at the disk, and this is why the disk has to be
rooted for a place above another to be a directory.

* `rooted_empty`: an empty disk is rooted;
* `Rooted.write`, `Rooted.makeDirectory`, `Rooted.makeDirectories`: a disk stays rooted.
-/

namespace BundleManifest.Disk

variable {d d' : Disk} {place next : Place} {names : List String} {path : String} {p : Path}

/-- Everything is in a directory, and the working directory is one. -/
structure Rooted (d : Disk) : Prop where
  home : d.get? d.home = some .directory
  above : ∀ place e, d.get? place = some e → d.get? place.dropLast = some .directory

/-- A disk without anything is rooted. -/
theorem rooted_empty : Rooted {} where
  home := get?_root _
  above place e h := by
    rw [get?] at h
    split at h
    · next hplace => rw [hplace, List.dropLast_nil, get?_root]
    · cases h

namespace Rooted

/-- From a place in a directory, names are followed to places in directories. -/
theorem get?_dropLast_of_follow (h : d.Rooted) (hplace : d.get? place.dropLast = some .directory)
    (hfollow : d.follow place names = .ok next) : d.get? next.dropLast = some .directory := by
  induction names generalizing place with
  | nil =>
    obtain rfl := Except.ok.inj hfollow
    exact hplace
  | cons name names ih =>
    obtain ⟨hdirectory, between, hentered, hrest⟩ := follow_cons_eq_ok_iff.1 hfollow
    refine ih ?_ hrest
    rw [entered] at hentered
    split at hentered
    · obtain rfl := Except.ok.inj hentered
      exact hplace
    split at hentered
    · obtain rfl := Except.ok.inj hentered
      exact h.above _ _ hplace
    split at hentered
    · cases hentered
    · obtain rfl := Except.ok.inj hentered
      rwa [List.dropLast_concat]

/-- Above the place to which a path leads there is a directory. -/
theorem get?_dropLast_of_locate (h : d.Rooted) (hlocate : d.locate path = .ok place) :
    d.get? place.dropLast = some .directory := by
  obtain ⟨-, -, -, hfollow⟩ := locate_eq_ok_iff.1 hlocate
  refine h.get?_dropLast_of_follow ?_ hfollow
  rw [start]
  split
  · rw [List.dropLast_nil, get?_root]
  · exact h.above _ _ h.home

/-- What is put where a path leads is in a directory. -/
theorem put (h : d.Rooted) (hlocate : d.locate path = .ok place)
    (hfree : d.get? place ≠ some .directory) (e : Entry) : (d.put place e).Rooted := by
  have hkeeps := keeps_put hfree e
  refine ⟨hkeeps.directory _ h.home, fun other e' hother => hkeeps.directory _ ?_⟩
  rw [get?_put d (ne_root_of_get? hfree)] at hother
  split at hother
  · next heq => exact heq ▸ h.get?_dropLast_of_locate hlocate
  · exact h.above _ _ hother

theorem makeDirectory (h : d.Rooted) (hmake : d.makeDirectory path = .ok d') : d'.Rooted := by
  obtain ⟨place, hlocate, hnone, rfl⟩ := exists_put_of_makeDirectory hmake
  exact h.put hlocate (by simp [hnone]) .directory

theorem write (h : d.Rooted) {bytes : List UInt8} (hwrite : d.write path bytes = .ok d') :
    d'.Rooted := by
  obtain ⟨place, hlocate, hfree, rfl⟩ := exists_put_of_write hwrite
  exact h.put hlocate hfree _

theorem orPresent (h : d.Rooted) {r : Except Error Unit}
    (hr : d.orPresent path (d.makeDirectory path) = (d', r)) : d'.Rooted := by
  cases hmake : d.makeDirectory path with
  | ok made =>
    rw [hmake, Disk.orPresent] at hr
    obtain ⟨rfl, -⟩ := Prod.mk.inj hr
    exact h.makeDirectory hmake
  | error fault =>
    rw [hmake, Disk.orPresent] at hr
    split at hr <;>
      · obtain ⟨rfl, -⟩ := Prod.mk.inj hr
        exact h

/-- Making directories, whether or not it succeeds, leaves a rooted disk. -/
theorem makeDirectories (h : d.Rooted) {r : Except Error Unit} (hr : d.makeDirectories p = (d', r)) :
    d'.Rooted := by
  fun_induction Disk.makeDirectories d p generalizing d' r with
  | case1 p _ _ =>
    obtain ⟨rfl, -⟩ := Prod.mk.inj hr
    exact h
  | case2 p _ _ above _ habove ih =>
    obtain ⟨rfl, -⟩ := Prod.mk.inj hr
    exact ih habove
  | case3 p _ _ above habove ih => exact (ih habove).orPresent hr
  | case4 p _ => exact h.orPresent hr

end Rooted

end BundleManifest.Disk
