import BundleManifest.PackageSize

/-!
# Sizes of packages without the bodies of their modules

The bodies of modules only count for their compressed size. So the sizes of the packages of a bundle
are the same when the records have no bodies, in the same order, but for the compressed sizes, which
are zero (`PackageSize.summarize_withoutContent`).

The order of the list does not look at compressed sizes, and sorting commutes with a change of what it
does not look at. So the list without bodies is the list with them, changed member by member.
-/

namespace BundleManifest.PackageSize

/-- The size of a package of whose modules no body is known. -/
def withoutGzip (p : PackageSize) : PackageSize :=
  { p with gzip := 0 }

theorem ofRecord_withoutContent (r : Record) :
    ofRecord r.withoutContent = (ofRecord r).withoutGzip := by
  simp [ofRecord, Record.withoutContent, withoutGzip]

theorem holds_withoutContent (p : PackageSize) (r : Record) :
    p.withoutGzip.holds r.withoutContent = p.holds r := rfl

theorem withRecord_withoutContent (p : PackageSize) (r : Record) :
    p.withoutGzip.withRecord r.withoutContent = (p.withRecord r).withoutGzip := by
  simp [withRecord, Record.withoutContent, withoutGzip]

/-- The order of the packages does not look at compressed sizes. -/
theorem listedBefore_withoutGzip (p q : PackageSize) :
    p.withoutGzip.listedBefore q.withoutGzip = p.listedBefore q := rfl

/-- One more module without a body goes to the same package. -/
theorem add_withoutContent (sizes : List PackageSize) (r : Record) :
    add (sizes.map withoutGzip) r.withoutContent = (add sizes r).map withoutGzip := by
  induction sizes with
  | nil => rw [List.map_nil, add, add, List.map_singleton, ofRecord_withoutContent]
  | cons p sizes ih =>
    rw [List.map_cons, add, add, holds_withoutContent]
    split
    · rw [List.map_cons, withRecord_withoutContent]
    · rw [List.map_cons, ih]

/-- Adding records without their contents leaves out the compressed sizes, and nothing else. -/
theorem foldl_add_withoutContent (records : List Record) (sizes : List PackageSize) :
    (records.map Record.withoutContent).foldl add (sizes.map withoutGzip) =
      (records.foldl add sizes).map withoutGzip := by
  induction records generalizing sizes with
  | nil => rfl
  | cons r records ih => rw [List.map_cons, List.foldl_cons, List.foldl_cons, add_withoutContent, ih]

/-- Without the bodies of the modules, the packages have the same sizes in the same order. -/
theorem summarize_withoutContent (records : List Record) :
    summarize (records.map Record.withoutContent) = (summarize records).map withoutGzip := by
  have hfilter : (records.map Record.withoutContent).filter (·.kind = .define) =
      (records.filter (·.kind = .define)).map Record.withoutContent := by
    rw [List.filter_map]
    rfl
  -- The order is by other fields than the compressed size.
  rw [summarize, summarize, hfilter,
    List.map_mergeSort fun p _ q _ => (listedBefore_withoutGzip p q).symm]
  exact congrArg (List.mergeSort · listedBefore) (foldl_add_withoutContent _ [])

end BundleManifest.PackageSize
