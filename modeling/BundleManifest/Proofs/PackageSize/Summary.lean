import BundleManifest.PackageSize
import Mathlib.Algebra.BigOperators.Ring.Finset
import Mathlib.Data.List.Sort
import Mathlib.Data.Prod.Lex
import Mathlib.Data.String.Basic

/-!
# What the sizes of packages count

The sizes of packages are collected module by module: a module is added to the package it belongs to,
or begins a new one. So after any number of modules there is one size for each package, and it counts
the modules of this package (`Grouped`).

Their order is that of their *ranks*: the larger size first, and then name and version. No two
packages have the same name and version, so no two have the same rank, and the order of the list is
strict. What the list is then only depends on which modules there are, and not on their order.

Both the counts and the order are stated without the way in which they are found. The counts are those
of a filter on the records, so that they do not depend on their order, and a strict order leaves only
one list with given members. Together this is why any permutation of the records has the same summary.

* `Grouped.add`: one more module keeps every size right; `grouped_foldl`, all modules of a script do;
* `mem_summarize`: which sizes are listed;
* `pairwise_summarize`: the list is in strict order;
* `summarize_counts`: all of it, and that the order of the records does not matter.
-/

namespace BundleManifest.PackageSize

variable {p q : PackageSize} {r : Record} {records : List Record} {sizes : List PackageSize}

/-! ## Packages and their modules -/

/-- Which version of which package a size is about. -/
def package (p : PackageSize) : String × String :=
  (p.packageName, p.version)

/-- Which version of which package a module belongs to. -/
def packageOf (r : Record) : String × String :=
  (r.identity.packageName, r.identity.version)

/-- The module definitions of a package. -/
def modulesOf (package : String × String) (records : List Record) : List Record :=
  records.filter fun r => r.kind = .define ∧ packageOf r = package

/-- The size of a package that has some modules. -/
def total (package : String × String) (modules : List Record) : PackageSize where
  packageName := package.1
  version := package.2
  modules := modules.length
  size := (modules.map Record.size).sum
  gzip := (modules.map fun r => Deflate.fileSize r.content).sum

theorem holds_iff : p.holds r = true ↔ p.package = packageOf r := by
  simp [holds, package, packageOf]

/-- Adding a module makes the size of its package larger, or is the first one of a new package. -/
theorem add_cases (sizes : List PackageSize) (r : Record) :
    (∃ before p behind, sizes = before ++ p :: behind ∧ p.package = packageOf r ∧
      add sizes r = before ++ p.withRecord r :: behind) ∨
    ((∀ p ∈ sizes, p.package ≠ packageOf r) ∧ add sizes r = sizes ++ [ofRecord r]) := by
  induction sizes with
  | nil => exact .inr ⟨by simp, rfl⟩
  | cons p sizes ih =>
    rw [add]
    split
    · next h => exact .inl ⟨[], p, sizes, rfl, holds_iff.1 h, rfl⟩
    · next h =>
      rw [holds_iff] at h
      obtain ⟨before, q, behind, rfl, hq, hadd⟩ | ⟨hnone, hadd⟩ := ih
      · exact .inl ⟨p :: before, q, behind, rfl, hq, by rw [hadd]; rfl⟩
      · exact .inr ⟨List.forall_mem_cons.2 ⟨h, hnone⟩, by rw [hadd]; rfl⟩

/-! ## Collecting -/

/-- Some sizes count some modules: there is one size for each package that has any. -/
structure Grouped (records : List Record) (sizes : List PackageSize) : Prop where
  nodup : (sizes.map package).Nodup
  packages : ∀ key, key ∈ sizes.map package ↔ key ∈ records.map packageOf
  counts : ∀ p ∈ sizes, p = total p.package (records.filter (packageOf · = p.package))

theorem total_append (key : String × String) (records : List Record) (r : Record) :
    total key (records ++ [r]) = (total key records).withRecord r := by
  simp [total, withRecord]

/-- The modules of a package do not change with a module of another one. -/
theorem filter_append_of_ne {key : String × String} (h : packageOf r ≠ key) :
    (records ++ [r]).filter (packageOf · = key) = records.filter (packageOf · = key) := by
  simp [List.filter_append, h]

theorem filter_append_of_eq {key : String × String} (h : packageOf r = key) :
    (records ++ [r]).filter (packageOf · = key) = records.filter (packageOf · = key) ++ [r] := by
  simp [List.filter_append, h]

/-- The sizes stay right when that of a package grows by one of its modules. -/
theorem Grouped.enlarge {before behind : List PackageSize}
    (h : Grouped records (before ++ p :: behind))
    (hp : p.package = packageOf r) :
    Grouped (records ++ [r]) (before ++ p.withRecord r :: behind) := by
  obtain ⟨hnodup, hpackages, hcounts⟩ := h
  have hsame : (before ++ p.withRecord r :: behind).map package =
      (before ++ p :: behind).map package := by
    simp [withRecord, package]
  refine ⟨by rwa [hsame], fun key => ?_, fun q hq => ?_⟩
  · rw [hsame, hpackages, List.map_append, List.mem_append, List.map_singleton, List.mem_singleton]
    refine ⟨.inl, fun hkey => hkey.elim id fun heq => ?_⟩
    rw [heq, ← hp, ← hpackages]
    simp
  · -- Of the sizes only that of the module's package changes.
    rw [List.map_append, List.map_cons, List.nodup_middle, List.nodup_cons, ← List.map_append]
      at hnodup
    rcases List.mem_append.1 hq with hq | hq
    · have hother : packageOf r ≠ q.package := fun heq =>
        hnodup.1 (hp.trans heq ▸ List.mem_map_of_mem (List.mem_append_left _ hq))
      rw [filter_append_of_ne hother]
      exact hcounts q (by simp [hq])
    rcases List.mem_cons.1 hq with rfl | hq
    · have hpackage : (p.withRecord r).package = p.package := rfl
      rw [hpackage, filter_append_of_eq hp.symm, total_append, ← hcounts p (by simp)]
    · have hother : packageOf r ≠ q.package := fun heq =>
        hnodup.1 (hp.trans heq ▸ List.mem_map_of_mem (List.mem_append_right _ hq))
      rw [filter_append_of_ne hother]
      exact hcounts q (by simp [hq])

/-- The sizes stay right when a module begins a new package. -/
theorem Grouped.extend (h : Grouped records sizes) (hnone : ∀ p ∈ sizes, p.package ≠ packageOf r) :
    Grouped (records ++ [r]) (sizes ++ [ofRecord r]) := by
  obtain ⟨hnodup, hpackages, hcounts⟩ := h
  have hnew : packageOf r ∉ sizes.map package := by simpa using hnone
  refine ⟨?_, fun key => ?_, fun q hq => ?_⟩
  · rw [List.map_append, List.map_singleton, List.nodup_append]
    refine ⟨hnodup, List.nodup_singleton _, fun a ha b hb heq => hnew ?_⟩
    rwa [heq, List.mem_singleton.1 hb] at ha
  · rw [List.map_append, List.map_append, List.mem_append, List.mem_append, hpackages]
    rfl
  · rcases List.mem_append.1 hq with hq | hq
    · rw [filter_append_of_ne (hnone q hq).symm]
      exact hcounts q hq
    · -- No module before it is of its package.
      have hnil : records.filter (packageOf · = packageOf r) = [] :=
        List.filter_eq_nil_iff.2 fun s hs heq =>
          hnew ((hpackages _).2 (of_decide_eq_true heq ▸ List.mem_map_of_mem hs))
      obtain rfl := List.mem_singleton.1 hq
      have hpackage : (ofRecord r).package = packageOf r := rfl
      rw [hpackage, filter_append_of_eq rfl, hnil]
      simp [total, ofRecord, packageOf]

/-- The sizes stay right with one more module. -/
theorem Grouped.add (h : Grouped records sizes) (r : Record) :
    Grouped (records ++ [r]) (PackageSize.add sizes r) := by
  obtain ⟨before, p, behind, rfl, hp, hadd⟩ | ⟨hnone, hadd⟩ := add_cases sizes r
  · rw [hadd]
    exact h.enlarge hp
  · rw [hadd]
    exact h.extend hnone

/-- The sizes that are collected from some modules are right. -/
theorem grouped_foldl (records : List Record) :
    Grouped records (records.foldl PackageSize.add []) := by
  induction records using List.reverseRecOn with
  | nil => exact ⟨List.nodup_nil, by simp, by simp⟩
  | append_singleton records r ih =>
    rw [List.foldl_append]
    exact ih.add r

/-- A sum over the sizes grows by what the new module adds, whichever package it goes to. -/
theorem sum_add {M : Type} [AddCommMonoid M] {f : PackageSize → M} {g : Record → M}
    (hfirst : ∀ r, f (ofRecord r) = g r) (hnext : ∀ p r, f (p.withRecord r) = f p + g r)
    (sizes : List PackageSize) (r : Record) :
    ((add sizes r).map f).sum = (sizes.map f).sum + g r := by
  obtain ⟨before, p, behind, rfl, -, hadd⟩ | ⟨-, hadd⟩ := add_cases sizes r
  · rw [hadd, List.map_append, List.map_append, List.sum_append, List.sum_append, List.map_cons,
      List.map_cons, List.sum_cons, List.sum_cons, hnext, add_right_comm (f p), ← add_assoc]
  · rw [hadd, List.map_append, List.sum_append, List.map_singleton, List.sum_singleton, hfirst]

/-- A sum over the sizes is the sum over the modules. -/
theorem sum_foldl_add {M : Type} [AddCommMonoid M] {f : PackageSize → M} {g : Record → M}
    (hfirst : ∀ r, f (ofRecord r) = g r) (hnext : ∀ p r, f (p.withRecord r) = f p + g r)
    (records : List Record) : ((records.foldl add []).map f).sum = (records.map g).sum := by
  induction records using List.reverseRecOn with
  | nil => rfl
  | append_singleton records r ih =>
    rw [List.foldl_append, List.foldl_cons, List.foldl_nil, sum_add hfirst hnext, ih, List.map_append,
      List.sum_append, List.map_singleton, List.sum_singleton]

/-! ## Order -/

/-- What the order of packages goes by: the larger size first, then the name, then the version. -/
def rank (p : PackageSize) : ℤ ×ₗ String ×ₗ String :=
  toLex (-p.size, toLex (p.packageName, p.version))

/-- Packages are listed by rank. -/
theorem listedBefore_iff : p.listedBefore q = true ↔ p.rank ≤ q.rank := by
  rw [listedBefore, rank, rank, Prod.Lex.toLex_le_toLex, Prod.Lex.toLex_le_toLex]
  by_cases hsize : p.size = q.size
  · by_cases hname : p.packageName = q.packageName
    · simp [hsize, hname, -String.lt_iff_ltb]
    · simp [hsize, hname, -String.lt_iff_ltb]
  · have : ¬-p.size = -q.size := fun h => hsize (by omega)
    simp [hsize]

/-- The rank of a package goes by its size, the largest first, and among equal sizes by its name and
    version. -/
theorem rank_lt_iff : p.rank < q.rank ↔ q.size < p.size ∨ q.size = p.size ∧
    (p.packageName < q.packageName ∨ p.packageName = q.packageName ∧ p.version < q.version) := by
  rw [rank, rank, Prod.Lex.toLex_lt_toLex, Prod.Lex.toLex_lt_toLex]
  simp only [Int.neg_lt_neg_iff, Int.neg_inj, eq_comm]

/-- Packages of the same rank are the same. -/
theorem package_eq_of_rank_eq (h : p.rank = q.rank) : p.package = q.package :=
  congrArg (fun x => ofLex (ofLex x).2) h

/-! ## The list of packages -/

/-- The sizes that are listed are right. -/
theorem grouped_summarize (records : List Record) :
    Grouped (records.filter (·.kind = .define)) (summarize records) := by
  obtain ⟨hnodup, hpackages, hcounts⟩ := grouped_foldl (records.filter (·.kind = .define))
  have hperm := List.mergeSort_perm ((records.filter (·.kind = .define)).foldl PackageSize.add [])
    listedBefore
  exact ⟨(hperm.map package).nodup_iff.2 hnodup,
    fun key => (hperm.map package).mem_iff.trans (hpackages key),
    fun p hp => hcounts p (hperm.mem_iff.1 hp)⟩

/-- The definitions of a package are its modules. -/
theorem filter_packageOf (key : String × String) :
    (records.filter (·.kind = .define)).filter (packageOf · = key) = modulesOf key records := by
  rw [modulesOf, List.filter_filter]
  congr 1
  funext r
  simp [Bool.and_comm]

/-- A size is listed if it is that of a package with modules, and counts these. -/
theorem mem_summarize : p ∈ summarize records ↔
    modulesOf p.package records ≠ [] ∧ p = total p.package (modulesOf p.package records) := by
  obtain ⟨-, hpackages, hcounts⟩ := grouped_summarize records
  have hne : p.package ∈ (records.filter (·.kind = .define)).map packageOf ↔
      modulesOf p.package records ≠ [] := by
    rw [← filter_packageOf, Ne, List.filter_eq_nil_iff, List.mem_map]
    simp [and_assoc]
  rw [← filter_packageOf] at hne ⊢
  constructor
  · intro hp
    exact ⟨hne.1 ((hpackages _).1 (List.mem_map_of_mem hp)), hcounts p hp⟩
  · rintro ⟨hmodules, hp⟩
    obtain ⟨q, hq, heq⟩ := List.mem_map.1 ((hpackages _).2 (hne.2 hmodules))
    have hcount := hcounts q hq
    rw [heq, ← hp] at hcount
    exact hcount ▸ hq

/-- Each package is listed before those of a greater rank. -/
theorem pairwise_summarize (records : List Record) :
    (summarize records).Pairwise fun p q => p.rank < q.rank := by
  have htrans : ∀ p q s : PackageSize, p.listedBefore q = true → q.listedBefore s = true →
      p.listedBefore s = true := fun p q s hpq hqs =>
    listedBefore_iff.2 ((listedBefore_iff.1 hpq).trans (listedBefore_iff.1 hqs))
  have htotal : ∀ p q : PackageSize, (p.listedBefore q || q.listedBefore p) = true := fun p q => by
    rw [Bool.or_eq_true, listedBefore_iff, listedBefore_iff]
    exact le_total _ _
  have hsorted : (summarize records).Pairwise fun p q => p.listedBefore q = true :=
    List.pairwise_mergeSort htrans htotal _
  -- No two of them have the same rank, for then they would be the same package.
  have hdistinct := List.pairwise_map.1 (grouped_summarize records).nodup
  refine hsorted.imp₂ (fun p q hle hne => ?_) hdistinct
  exact (listedBefore_iff.1 hle).lt_of_ne fun heq => hne (package_eq_of_rank_eq heq)

/-- A sum over the list is the sum over the module definitions. -/
theorem sum_summarize {M : Type} [AddCommMonoid M] {f : PackageSize → M} {g : Record → M}
    (hfirst : ∀ r, f (ofRecord r) = g r) (hnext : ∀ p r, f (p.withRecord r) = f p + g r) :
    ((summarize records).map f).sum = ((records.filter (·.kind = .define)).map g).sum := by
  rw [summarize, ((List.mergeSort_perm _ _).map f).sum_eq, sum_foldl_add hfirst hnext]

theorem modulesOf_perm {records' : List Record} (h : records.Perm records') (key : String × String) :
    (modulesOf key records).Perm (modulesOf key records') :=
  h.filter _

/-- The order of its modules does not matter for the size of a package. -/
theorem total_perm {records' : List Record} (key : String × String) (h : records.Perm records') :
    total key records = total key records' := by
  rw [total, total, h.length_eq, (h.map _).sum_eq, (h.map _).sum_eq]

/-- The packages of some records are those of their module definitions. Each is listed once; its size
    counts its modules, the bytes that they take and the bytes that their compressed bodies take, and
    nothing else, so that all sizes together count all module definitions. The larger package comes
    first, and of two equally large ones the one with the lesser name, or the lesser version of the
    same name. So the list does not depend on the order of the records. -/
theorem summarize_counts (records : List Record) :
    let definitions := records.filter (·.kind = .define)
    (((summarize records).map package).Nodup ∧
      ∀ key, key ∈ (summarize records).map package ↔ ∃ r ∈ records, r.kind = .define ∧
      packageOf r = key) ∧
    (∀ p ∈ summarize records,
      p.modules = (modulesOf p.package records).length ∧
      p.size = ((modulesOf p.package records).map Record.size).sum ∧
      p.gzip = ((modulesOf p.package records).map fun r => Deflate.fileSize r.content).sum) ∧
    (((summarize records).map modules).sum = definitions.length ∧
      ((summarize records).map size).sum = (definitions.map Record.size).sum ∧
      ((summarize records).map gzip).sum =
      (definitions.map fun r => Deflate.fileSize r.content).sum) ∧
    (summarize records).Pairwise (fun p q => q.size < p.size ∨ q.size = p.size ∧
      (p.packageName < q.packageName ∨ p.packageName = q.packageName ∧ p.version < q.version)) ∧
    ∀ records', records.Perm records' → summarize records = summarize records' := by
  intro definitions
  obtain ⟨hnodup, hpackages, -⟩ := grouped_summarize records
  refine ⟨⟨hnodup, fun key => (hpackages key).trans ?_⟩, fun p hp => ?_, ⟨?_, ?_, ?_⟩,
    (pairwise_summarize records).imp rank_lt_iff.1, fun records' hperm => ?_⟩
  · simp [and_assoc]
  · have hcount := (mem_summarize.1 hp).2
    exact ⟨congrArg modules hcount, congrArg size hcount, congrArg gzip hcount⟩
  · rw [sum_summarize (g := fun _ => 1) (fun _ => rfl) fun _ _ => rfl]
    simp [definitions]
  · exact sum_summarize (fun _ => rfl) fun _ _ => rfl
  · exact sum_summarize (fun _ => rfl) fun _ _ => rfl
  · -- Two lists in the same strict order are equal if they list the same sizes.
    refine (pairwise_summarize records).eq_of_mem_iff (pairwise_summarize records') fun p => ?_
    have hmodules := modulesOf_perm hperm p.package
    rw [mem_summarize, mem_summarize, total_perm p.package hmodules, Ne, Ne,
      ← List.length_eq_zero_iff, ← List.length_eq_zero_iff, hmodules.length_eq]

/-- Two packages of the same size, of which one has two modules, and an alias that does not count. -/
theorem summarize_counts_of_tie :
    let defined (name : String) (size : Int) : Record :=
      { kind := .define, size, identity := { packageName := name, version := "1" } }
    let other : Record := { kind := .main, size := 9, identity := { packageName := "c" } }
    let records := [defined "b" 5, defined "a" 2, other, defined "a" 3]
    let counted (packageName : String) (modules : Nat) : PackageSize :=
      { packageName, version := "1", modules, size := 5, gzip := 0 }
    records.Perm records.reverse ∧ summarize records = [counted "a" 2, counted "b" 1] ∧
      summarize records.reverse = summarize records ∧
      counted "a" 2 ∈ summarize records ∧
      (counted "a" 2).modules = (modulesOf ("a", "1") records).length := by
  intro defined other records counted
  have hperm : records.Perm records.reverse := (List.reverse_perm records).symm
  have hcollected : (records.filter (·.kind = .define)).foldl add [] =
      [counted "b" 1, counted "a" 2] := by
    decide +kernel
  have hlist : summarize records = [counted "a" 2, counted "b" 1] := by
    have horder : listedBefore (counted "b" 1) (counted "a" 2) = false := by decide +kernel
    rw [summarize, hcollected]
    simp [List.mergeSort, List.MergeSort.Internal.splitInTwo, horder]
  have hmem : counted "a" 2 ∈ summarize records := by rw [hlist]; exact List.mem_cons_self
  obtain ⟨-, hcounts, -, -, horder⟩ := summarize_counts records
  exact ⟨hperm, hlist, (horder _ hperm).symm, hmem, (hcounts _ hmem).1⟩

end BundleManifest.PackageSize
