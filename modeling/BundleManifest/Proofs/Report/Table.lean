import BundleManifest.Proofs.Json.Token
import BundleManifest.Proofs.Report.Fit
import BundleManifest.Proofs.Report.Unmarked

/-!
# The table of sizes with markup and without

The texts of a table are not escaped. Where none of them has markup, the table is the same whether
markup is read or not (`sizeTable_eq`), and what stands in it can be seen: the title above it, and in
a table that fits on the terminal the names and the versions (`exists_lists`). Markup in the title
always makes another text, or none (`unmarked_of_titleLines`), since it takes brackets or backslashes
away.

A table is made of the lines of its title and the lines below. Cells are texts whose length is not
known, and tables are compared without looking into the widths of their columns: if the texts that are
shown are the same, the lines are. For the title the other direction is needed, too, and there the
weight of the text that is shown decides (`weight_lt_of_render`), which is the same in all lines of
the title together as in the title itself.

* `shownRow`, `bodyLines`, `titleLines`: the parts of the table;
* `Lists`: what a line says about a package;
* `sizeTable_agrees_iff`: the table is the same exactly if there is no markup in its title.
-/

namespace BundleManifest.Report

open Markup

variable {s : List Char} {p : PackageSize} {sizes : List PackageSize} {title : String}

/-! ## Lists and texts -/

theorem unlines_append (ls ms : List (List Char)) : unlines (ls ++ ms) = unlines ls ++ unlines ms :=
  List.flatMap_append

theorem weight_filter (s : List Char) : weight (s.filter (!isControl ·)) = weight s := by
  rw [weight, List.count_filter (by decide), List.count_filter (by decide), weight]

/-- A traversal in which every step succeeds gives what the steps give. -/
theorem mapM_eq_ok {α β : Type} {f : α → Except Problem β} {g : α → β} {l : List α}
    (h : ∀ a ∈ l, f a = .ok (g a)) : l.mapM f = .ok (l.map g) := by
  induction l with
  | nil => rfl
  | cons a l ih =>
    obtain ⟨ha, hl⟩ := List.forall_mem_cons.1 h
    rw [List.mapM_cons, ha, ih hl]
    rfl

/-! ## Cells -/

theorem bracket_notMem_unitText (n unit : Nat) {name : String} (h : '[' ∉ name.toList) :
    '[' ∉ (unitText n unit name).toList := by
  simp [unitText, tenthsText, h, Json.notMem_toDigits]

/-- No byte count is written with a bracket. -/
theorem bracket_notMem_sizeText? {n : Int} {text : String} (h : sizeText? n = some text) :
    '[' ∉ text.toList := by
  unfold sizeText? at h
  dsimp only at h
  split at h
  · obtain rfl := Option.some.inj h
    rw [String.toList_append, Json.toList_toString_int]
    split <;> simp [Json.notMem_toDigits]
  · split at h
    · obtain rfl := Option.some.inj h
      exact bracket_notMem_unitText _ _ (by decide)
    · split at h
      · obtain rfl := Option.some.inj h
        exact bracket_notMem_unitText _ _ (by decide)
      · simp at h

/-- A package whose byte counts have texts. -/
def HasTexts (p : PackageSize) : Prop :=
  (sizeText? p.size).isSome ∧ (sizeText? p.gzip).isSome

/-- The row for a package whose byte counts have texts. -/
def rowOf (p : PackageSize) : List String :=
  [p.packageName, if p.version = "" then "-" else p.version, toString p.modules,
    (sizeText? p.size).getD "", (sizeText? p.gzip).getD ""]

theorem sizeRow_eq (h : HasTexts p) : sizeRow p = .ok (rowOf p) := by
  obtain ⟨size, hsize⟩ := Option.isSome_iff_exists.1 h.1
  obtain ⟨gzip, hgzip⟩ := Option.isSome_iff_exists.1 h.2
  simp [sizeRow, rowOf, sizeText, hsize, hgzip]
  rfl

theorem sizeRow_error (h : ¬HasTexts p) : sizeRow p = .error .tooLarge := by
  rw [HasTexts, not_and_or, Option.not_isSome_iff_eq_none, Option.not_isSome_iff_eq_none] at h
  cases hsize : sizeText? p.size with
  | none => simp [sizeRow, sizeText, hsize, bind, Except.bind]
  | some size =>
    have hgzip := h.resolve_left (by simp [hsize])
    simp [sizeRow, sizeText, hsize, hgzip, bind, Except.bind]

theorem unmarked_getD (n : Int) : Unmarked ((sizeText? n).getD "").toList := by
  refine unmarked_of_notMem ?_
  cases h : sizeText? n with
  | none => simp
  | some text => exact bracket_notMem_sizeText? h

/-- A name and a version without markup make a row without markup. -/
theorem unmarked_of_mem_rowOf (hname : Unmarked p.packageName.toList)
    (hversion : Unmarked p.version.toList) :
    ∀ cell ∈ rowOf p, Unmarked cell.toList := by
  have hshown : Unmarked (if p.version = "" then "-" else p.version).toList := by
    split
    · exact unmarked_of_notMem (by decide)
    · exact hversion
  have hmodules : Unmarked (Nat.toDigits 10 p.modules) :=
    unmarked_of_notMem (Json.notMem_toDigits rfl _)
  simp [rowOf, hname, hshown, hmodules, unmarked_getD]

/-- The cells of the columns, given the header and the rows. -/
def columnsOf (header : List (List Char)) (rows : List (List (List Char))) :
    List (List (List Char)) :=
  header.mapIdx fun i name => name :: rows.map (·.getD i [])

/-- The first two columns hold the first two cells of the header and of every row. -/
theorem exists_columnsOf (first second : List Char) (header : List (List Char))
    (rows : List (List (List Char))) :
    ∃ others, columnsOf (first :: second :: header) rows =
      (first :: rows.map (·.getD 0 [])) :: (second :: rows.map (·.getD 1 [])) :: others :=
  ⟨_, by rw [columnsOf, List.mapIdx_cons, List.mapIdx_cons]⟩

theorem bracket_notMem_header :
    ∀ name ∈ ["Package", "Version", "Modules", "Size", "Gzip"], '[' ∉ name.toList := by
  simp

/-- The version of a package as it is listed. -/
def shownVersion (p : PackageSize) : String :=
  if p.version = "" then "-" else p.version

/-- A line that lists a package, with its name and its version as they are. -/
def Lists (line : List Char) (p : PackageSize) : Prop :=
  ∃ m n more, line = '│' :: ' ' :: (p.packageName.toList ++ List.replicate (m + 1) ' ')
    ++ '│' :: ' ' :: ((shownVersion p).toList ++ List.replicate (n + 1) ' ') ++ more

/-! ## What is shown -/

section

variable [Console]

/-- What is shown for a text without markup. -/
def shownText (s : List Char) : List Char :=
  (Emoji.replace s).filter (!isControl ·)

/-- A text without markup is shown in the same way whether or not lines are rich. -/
theorem plain_of_unmarked (h : Unmarked s) (rich : Bool) : plain rich s = .ok (shownText s) := by
  cases rich with
  | false => rfl
  | true =>
    rw [plain, if_pos rfl, render_of_unmarked h]
    rfl

/-- Spaces for tabs change the number of no other character. -/
theorem count_withoutTabs (hspace : c ≠ ' ') (htab : c ≠ '\t') (cell : Nat) (s : List Char) :
    (withoutTabs cell s).count c = s.count c := by
  induction s generalizing cell with
  | nil => rfl
  | cons d s ih =>
    rw [withoutTabs]
    split
    · next hd =>
      subst hd
      simp [List.count_replicate, ih, hspace.symm, htab.symm]
    · rw [List.count_cons, List.count_cons, ih]

/-- Only spaces, tabs and line ends are lost or added when a text is laid out in lines. -/
theorem count_unlines_lines (hspace : c ≠ ' ') (htab : c ≠ '\t') (hend : c ≠ '\n') (s : List Char) :
    (unlines (lines s)).count c = s.count c := by
  rw [← Text.count_flatten_pieces (s := s) hend, lines, unlines]
  induction Text.pieces '\n' s with
  | nil => rfl
  | cons l ls ih =>
    rw [List.map_cons, List.flatMap_cons, List.flatten_cons, List.count_append, List.count_append,
      List.count_append, count_withoutTabs hspace htab, ih]
    simp [hend.symm]

theorem weight_unlines_lines (s : List Char) : weight (unlines (lines s)) = weight s := by
  rw [weight, count_unlines_lines (by decide) (by decide) (by decide),
    count_unlines_lines (by decide) (by decide) (by decide), weight]

/-! ## The table -/

/-- What is shown in the header. -/
def headerCells : List (List Char) :=
  ["Package", "Version", "Modules", "Size", "Gzip"].map fun name => shownText name.toList

/-- What is shown in the row for a package. -/
def shownRow (p : PackageSize) : List (List Char) :=
  (rowOf p).map fun cell => shownText cell.toList

/-- The lines of a table below its title. -/
def bodyLines (header : List (List Char)) (rows : List (List (List Char))) : List (List Char) :=
  let ws := columnWidths (columnsOf header rows)
  [topBorder.text ws] ++ rowLines '┃' true ws header ++ [headBorder.text ws]
    ++ rows.flatMap (rowLines '│' false ws) ++ [bottomBorder.text ws]

/-- The lines of a title. -/
def titleLines (rich : Bool) (title : String) : Except Problem (List (List Char)) :=
  if title = "" then .ok [] else (plain rich title.toList).map lines

/-- A table is its title and the lines below it, which are the same in rich tables and others. -/
theorem Table.lines_eq {rich : Bool} {t : Table} {header : List (List Char)}
    {rows : List (List (List Char))}
    (hheader : t.header.mapM (fun s => plain rich s.toList) = .ok header)
    (hrows : t.rows.mapM (·.mapM fun s => plain rich s.toList) = .ok rows) :
    t.lines rich = (titleLines rich t.title).map (· ++ bodyLines header rows) := by
  simp only [Table.lines, hheader, hrows, titleLines, bind, Except.bind]
  split
  · simp [Except.map, bodyLines, columnsOf, pure, Except.pure]
  · cases plain rich t.title.toList with
    | error p => rfl
    | ok s => simp [Except.map, bodyLines, columnsOf, pure, Except.pure]

/-- Without markup in the cells, it only matters for the title whether markup is read. -/
theorem sizeTable_eq (htexts : ∀ p ∈ sizes, HasTexts p)
    (hcells : ∀ p ∈ sizes, Unmarked p.packageName.toList ∧ Unmarked p.version.toList)
    (rich : Bool) (title : String) :
    sizeTable rich title sizes = (titleLines rich title).map fun ls =>
      String.ofList (unlines (ls ++ bodyLines headerCells (sizes.map shownRow))) := by
  have hrows : sizes.mapM sizeRow = .ok (sizes.map rowOf) :=
    mapM_eq_ok fun p hp => sizeRow_eq (htexts p hp)
  have hheader :
      ["Package", "Version", "Modules", "Size", "Gzip"].mapM (fun s => plain rich s.toList) =
      .ok headerCells :=
    mapM_eq_ok fun name hname =>
    plain_of_unmarked (unmarked_of_notMem (bracket_notMem_header name hname)) rich
  have hshown : (sizes.map rowOf).mapM (·.mapM fun s => plain rich s.toList) =
      .ok (sizes.map shownRow) := by
    rw [mapM_eq_ok (g := List.map fun cell => shownText cell.toList), List.map_map]
    · rfl
    · intro row hrow
      obtain ⟨p, hp, rfl⟩ := List.mem_map.1 hrow
      exact mapM_eq_ok fun cell hcell =>
        plain_of_unmarked (unmarked_of_mem_rowOf (hcells p hp).1 (hcells p hp).2 cell hcell) rich
  have hlines := Table.lines_eq
    (t := ⟨title, ["Package", "Version", "Modules", "Size", "Gzip"], sizes.map rowOf⟩) hheader hshown
  simp only [sizeTable, hrows, bind, Except.bind, hlines]
  cases titleLines rich title with
  | error p => rfl
  | ok ls => rfl

/-- A byte count without a text is a problem, with markup and without. -/
theorem sizeTable_error (h : ∃ p ∈ sizes, ¬HasTexts p) (rich : Bool) (title : String) :
    sizeTable rich title sizes = .error .tooLarge := by
  have hrows : sizes.mapM sizeRow = .error .tooLarge := by
    induction sizes with
    | nil => simp at h
    | cons p sizes ih =>
      rw [List.mapM_cons]
      by_cases hp : HasTexts p
      · obtain ⟨q, hq, hnone⟩ := h
        have hrest := ih ⟨q, (List.mem_cons.1 hq).resolve_left fun heq => hnone (heq ▸ hp), hnone⟩
        rw [sizeRow_eq hp, hrest]
        rfl
      · rw [sizeRow_error hp]
        rfl
  rw [sizeTable, hrows]
  rfl

/-! ## The title -/

/-- A title without markup has the same lines in rich tables and others. -/
theorem titleLines_of_unmarked (h : Unmarked title.toList) (rich : Bool) :
    titleLines rich title = .ok (if title = "" then [] else lines (shownText title.toList)) := by
  rw [titleLines, plain_of_unmarked h]
  split <;> rfl

/-- Outside rich tables the title is a text like every other one. -/
theorem titleLines_false (title : String) :
    titleLines false title = .ok (if title = "" then [] else lines (shownText title.toList)) := by
  rw [titleLines]
  split <;> rfl

/-- Markup in a title makes other lines of it, or none. -/
theorem unmarked_of_titleLines {ls : List (List Char)} (h : titleLines true title = .ok ls)
    (hsame : unlines ls = unlines (if title = "" then [] else lines (shownText title.toList))) :
    Unmarked title.toList := by
  by_contra hmarked
  have hne : title ≠ "" := by
    rintro rfl
    exact hmarked (unmarked_of_notMem (by simp))
  rw [titleLines, if_neg hne, plain, if_pos rfl] at h
  cases hrender : render title.toList with
  | error p => simp [hrender, Except.map] at h
  | ok t =>
    have hlost := weight_lt_of_render hmarked hrender
    obtain rfl : lines (t.filter (!isControl ·)) = ls := by simpa [hrender, Except.map] using h
    rw [if_neg hne] at hsame
    have hweight := congrArg weight hsame
    rw [weight_unlines_lines, weight_unlines_lines, weight_filter, shownText, weight_filter,
      weight_replace] at hweight
    omega

/-! ## What can be seen -/

/-- A text without names of pictures and control characters is shown as it is. -/
theorem shownText_of_free (hfree : Emoji.Free s) (hplain : ∀ c ∈ s, ¬IsControlCharacter c) :
    shownText s = s := by
  rw [shownText, Emoji.replace_eq_self_iff.2 hfree, filter_of_forall hplain]

theorem Legible.shownText_eq (h : Legible s) : shownText s = s :=
  shownText_of_free h.free fun c hc => (h.plain c hc).1

/-- The first two columns hold the names and the versions. -/
theorem exists_columns (hp : p ∈ sizes) :
    ∃ first second others, columnsOf headerCells (sizes.map shownRow) = first :: second :: others ∧
      shownText p.packageName.toList ∈ first ∧ shownText (shownVersion p).toList ∈ second := by
  have hcell (i : Nat) : (shownRow p).getD i [] ∈ (sizes.map shownRow).map (·.getD i []) :=
    List.mem_map_of_mem (List.mem_map_of_mem hp)
  obtain ⟨others, hothers⟩ :=
    exists_columnsOf (shownText "Package".toList) (shownText "Version".toList)
    (["Modules", "Size", "Gzip"].map fun name => shownText name.toList) (sizes.map shownRow)
  exact ⟨_, _, others, hothers, List.mem_cons_of_mem _ (hcell 0), List.mem_cons_of_mem _ (hcell 1)⟩

/-- If the table fits on the terminal, it lists every package whose name and version are legible. -/
theorem exists_lists (hfit : Fit (columnsOf headerCells (sizes.map shownRow))) (hp : p ∈ sizes)
    (hname : Legible p.packageName.toList) (hversion : Legible (shownVersion p).toList) :
    ∃ line ∈ bodyLines headerCells (sizes.map shownRow), Lists line p := by
  obtain ⟨first, second, others, hcolumns, hfirst, hsecond⟩ := exists_columns hp
  obtain ⟨more, hrow⟩ : ∃ more,
      shownRow p = p.packageName.toList :: (shownVersion p).toList :: more :=
    ⟨_, congrArg₂ (fun s t => s :: t :: _) hname.shownText_eq hversion.shownText_eq⟩
  rw [hname.shownText_eq] at hfirst
  rw [hversion.shownText_eq] at hsecond
  have hwidths : columnWidths (columnsOf headerCells (sizes.map shownRow)) =
      naturalWidth first :: naturalWidth second :: others.map naturalWidth := by
    rw [columnWidths_of_fit hfit, hcolumns]
    rfl
  obtain ⟨behind, hline⟩ := exists_mem_rowLines '│' (others.map naturalWidth) more
    (cellLines_eq_singleton hname (le_naturalWidth hfirst))
    (cellLines_eq_singleton hversion (le_naturalWidth hsecond))
  refine ⟨_, List.mem_append_left _ (List.mem_append_right _ (List.mem_flatMap.2
    ⟨shownRow p, List.mem_map_of_mem hp, by rw [hwidths, hrow]; exact hline⟩)),
    naturalWidth first - padding - width p.packageName.toList,
    naturalWidth second - padding - width (shownVersion p).toList, behind, ?_⟩
  simp [cellText, List.replicate_succ']

/-- Whether markup is read makes no difference exactly if there is none in the title. -/
theorem sizeTable_eq_iff (htexts : ∀ p ∈ sizes, HasTexts p)
    (hcells : ∀ p ∈ sizes, Unmarked p.packageName.toList ∧ Unmarked p.version.toList) :
    sizeTable true title sizes = sizeTable false title sizes ↔ Unmarked title.toList := by
  rw [sizeTable_eq htexts hcells, sizeTable_eq htexts hcells]
  constructor
  · intro h
    rw [titleLines_false] at h
    cases htitle : titleLines true title with
    | error e => simp [htitle, Except.map] at h
    | ok ls =>
      refine unmarked_of_titleLines htitle ?_
      rw [htitle] at h
      have htext := congrArg String.toList (Except.ok.inj h)
      rwa [String.toList_ofList, String.toList_ofList, unlines_append, unlines_append,
        List.append_cancel_right_eq] at htext
  · intro h
    rw [titleLines_of_unmarked h, titleLines_of_unmarked h]

/-- As long as names and versions have no markup, the table is the same with markup and without
    exactly if its title has none. Then the title can be read, and so can names and versions for which
    there is room. -/
theorem sizeTable_agrees_iff (title : String) (sizes : List PackageSize)
    (hcells : ∀ p ∈ sizes, Unmarked p.packageName.toList ∧ Unmarked p.version.toList) :
    ((∃ p ∈ sizes, ¬HasTexts p) → ∀ rich, sizeTable rich title sizes = .error .tooLarge) ∧
      ((∀ p ∈ sizes, HasTexts p) →
        ∃ ls, sizeTable false title sizes = .ok (String.ofList (unlines ls)) ∧
        (sizeTable true title sizes = sizeTable false title sizes ↔ Unmarked title.toList) ∧
        (title ≠ "" → Emoji.Free title.toList → (∀ c ∈ title.toList, ¬IsControlCharacter c) →
          ls.head? = some title.toList) ∧
        (Fit (columnsOf headerCells (sizes.map shownRow)) → ∀ p ∈ sizes,
          Legible p.packageName.toList → Legible (shownVersion p).toList →
            ∃ line ∈ ls, Lists line p)) := by
  refine ⟨fun h rich => sizeTable_error h rich title, fun htexts => ?_⟩
  refine ⟨_, (sizeTable_eq htexts hcells false title).trans (by rw [titleLines_false]; rfl),
    sizeTable_eq_iff htexts hcells, ?_, ?_⟩
  · intro hne hfree hplain
    rw [if_neg hne, shownText_of_free hfree hplain, lines_of_forall hplain]
    rfl
  · intro hfit p hp hname hversion
    obtain ⟨line, hline, hlists⟩ := exists_lists hfit hp hname hversion
    exact ⟨line, List.mem_append_right _ hline, hlists⟩

end

/-! ## Names in brackets -/

open scoped Usual in
/-- A file and a package without brackets in their names. -/
theorem sizeTable_agrees_on_plain_names :
    ∃ text, sizeTable true "app.js" [⟨"left-pad", "1.0.0", 1, 10, 30⟩] = .ok text ∧
      sizeTable false "app.js" [⟨"left-pad", "1.0.0", 1, 10, 30⟩] = .ok text := by
  have hcells : ∀ p ∈ [PackageSize.mk "left-pad" "1.0.0" 1 10 30],
      Unmarked p.packageName.toList ∧ Unmarked p.version.toList :=
    List.forall_mem_singleton.2 ⟨unmarked_of_notMem (by decide), unmarked_of_notMem (by decide)⟩
  obtain ⟨-, h⟩ := sizeTable_agrees_iff "app.js" _ hcells
  obtain ⟨ls, hplain, hrich, -⟩ := h (List.forall_mem_singleton.2 ⟨rfl, rfl⟩)
  exact ⟨_, (hrich.2 (unmarked_of_notMem (by decide))).trans hplain, hplain⟩

open scoped Usual in
/-- A path with a name in brackets. -/
theorem sizeTable_differs :
    sizeTable true "dist/[id].js" [] ≠ sizeTable false "dist/[id].js" [] := by
  intro h
  have hunmarked := (sizeTable_eq_iff (List.forall_mem_nil _) (List.forall_mem_nil _)).1 h
  refine hunmarked.untagged "id".toList ⟨⟨'i', ['d'], rfl, rfl⟩, by decide, by decide⟩ ?_
  exact ⟨"dist/".toList, ".js".toList, rfl⟩

end BundleManifest.Report
