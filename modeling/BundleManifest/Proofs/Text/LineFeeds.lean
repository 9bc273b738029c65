import BundleManifest.Proofs.Text.Utf8
import BundleManifest.Text.Encoding

/-!
# Line ends that become line feeds

A text that was read from a file has a line feed for every line end of the file
(`Text.withLineFeeds`). It is the text of the file exactly if that has no carriage returns, and it is
shorter by one byte for every line end of two characters (`length_encode_withLineFeeds`).

Every part of such a text comes from a part of the file (`exists_of_withLineFeeds_eq_append`), which
does not begin or end within a line end.
-/

namespace BundleManifest.Text

/-- The number of line ends of two characters. -/
def doubleEnds : List Char → Nat
  | '\r' :: '\n' :: rest => doubleEnds rest + 1
  | _ :: rest => doubleEnds rest
  | [] => 0

/-- No carriage return is left where all line ends are line feeds. -/
theorem carriageReturn_notMem_withLineFeeds (s : List Char) : '\r' ∉ withLineFeeds s := by
  fun_induction withLineFeeds s with
  | case1 rest ih | case2 rest _ ih => simpa using ih
  | case3 c rest _ hc ih => exact List.not_mem_cons_of_ne_of_not_mem (fun h => hc h.symm) ih
  | case4 => exact List.not_mem_nil

theorem withLineFeeds_of_notMem {s : List Char} (h : '\r' ∉ s) : withLineFeeds s = s := by
  fun_induction withLineFeeds s with
  | case1 rest | case2 rest => exact absurd List.mem_cons_self h
  | case3 c rest _ hc ih => rw [ih fun hr => h (List.mem_cons_of_mem _ hr)]
  | case4 => rfl

/-- A text stays as it is exactly if it has no carriage returns. -/
theorem withLineFeeds_eq_self_iff {s : List Char} : withLineFeeds s = s ↔ '\r' ∉ s :=
  ⟨fun h => h ▸ carriageReturn_notMem_withLineFeeds s, withLineFeeds_of_notMem⟩

/-- Every line end of two characters costs one byte. -/
theorem length_encode_withLineFeeds (s : List Char) :
    (Utf8.encode (withLineFeeds s)).length + doubleEnds s = (Utf8.encode s).length := by
  have hreturn : (String.utf8EncodeChar '\r').length = 1 := rfl
  have hfeed : (String.utf8EncodeChar '\n').length = 1 := rfl
  fun_induction withLineFeeds s with
  | case1 rest ih =>
    simp only [doubleEnds, Utf8.encode_cons, List.length_append, hreturn, hfeed]
    omega
  | case2 rest hne ih =>
    rw [doubleEnds]
    · simp only [Utf8.encode_cons, List.length_append, hreturn, hfeed]
      omega
    · exact fun rest' _ hrest => hne rest' hrest
  | case3 c rest _ hc ih =>
    rw [doubleEnds]
    · simp only [Utf8.encode_cons, List.length_append]
      omega
    · exact fun _ h _ => hc h
  | case4 => rfl

/-- No line end of two characters is counted exactly if there is none in the text. -/
theorem doubleEnds_eq_zero_iff {s : List Char} : doubleEnds s = 0 ↔ ¬ ['\r', '\n'] <:+: s := by
  fun_induction doubleEnds s with
  | case1 rest =>
    exact iff_of_false (Nat.succ_ne_zero _) fun h => h ⟨[], rest, rfl⟩
  | case2 c rest hne ih =>
    rw [ih, List.infix_cons_iff, not_or, iff_and_self]
    rintro - ⟨rest', h⟩
    obtain ⟨rfl, rfl⟩ := List.cons.inj h
    exact hne rest' rfl rfl
  | case3 => simp

/-- A part of a text with line feeds comes from a part of the text. -/
theorem exists_of_withLineFeeds_eq_append {s a b : List Char} (h : withLineFeeds s = a ++ b) :
    ∃ before after, s = before ++ after ∧ withLineFeeds before = a ∧ withLineFeeds after = b := by
  fun_induction withLineFeeds s generalizing a with
  | case1 rest ih =>
    rcases List.cons_eq_append_iff.1 h with ⟨rfl, rfl⟩ | ⟨a, rfl, hrest⟩
    · exact ⟨[], _, rfl, rfl, rfl⟩
    · obtain ⟨before, after, rfl, rfl, rfl⟩ := ih hrest
      exact ⟨'\r' :: '\n' :: before, after, rfl, rfl, rfl⟩
  | case2 rest hne ih =>
    rcases List.cons_eq_append_iff.1 h with ⟨rfl, rfl⟩ | ⟨a, rfl, hrest⟩
    · exact ⟨[], _, rfl, rfl, withLineFeeds.eq_2 _ hne⟩
    · obtain ⟨before, after, rfl, rfl, rfl⟩ := ih hrest
      -- The line feed that would make a pair is not on either side.
      refine ⟨'\r' :: before, after, rfl, withLineFeeds.eq_2 _ ?_, rfl⟩
      rintro before rfl
      exact hne _ rfl
  | case3 c rest hne hc ih =>
    rcases List.cons_eq_append_iff.1 h with ⟨rfl, rfl⟩ | ⟨a, rfl, hrest⟩
    · exact ⟨[], _, rfl, rfl, withLineFeeds.eq_3 _ _ hne hc⟩
    · obtain ⟨before, after, rfl, rfl, rfl⟩ := ih hrest
      exact ⟨c :: before, after, rfl, withLineFeeds.eq_3 _ _ (fun _ h _ => hc h) hc, rfl⟩
  | case4 =>
    obtain ⟨rfl, rfl⟩ := List.append_eq_nil_iff.1 h.symm
    exact ⟨[], [], rfl, rfl, rfl⟩

end BundleManifest.Text
