import BundleManifest.Text.Utf8

/-!
# Source text

The text of a script together with its bytes. All offsets into a script count bytes of its UTF-8
form, so that a line end of any kind, a byte order mark and every other character take the room that
they have in the file.
-/

namespace BundleManifest.Script

/-- A script as bytes. -/
structure Source where
  /-- The bytes of the script. -/
  bytes : Array UInt8
  deriving Inhabited

namespace Source

/-- The source with a given text. -/
def ofText (text : String) : Source :=
  ⟨(Utf8.encode text.toList).toArray⟩

/-- The number of bytes. -/
def size (s : Source) : Nat :=
  s.bytes.size

/-- The bytes from one offset to another. Offsets beyond the end count as the end, and there are no
    bytes from an offset to a smaller one. -/
def slice (s : Source) (start stop : Nat) : List UInt8 :=
  (s.bytes.extract start stop).toList

/-- The text between two offsets. An offset inside a character leaves replacement characters. -/
def text (s : Source) (start stop : Nat) : String :=
  String.ofList (Utf8.decodeLossy (s.slice start stop))

theorem slice_eq (s : Source) (start stop : Nat) :
    s.slice start stop = s.bytes.toList.extract start stop := by
  simp [slice]

theorem length_slice_le (s : Source) (start stop : Nat) :
    (s.slice start stop).length ≤ stop - start := by
  rw [slice_eq, List.extract_eq_take_drop, List.length_take]
  exact Nat.min_le_left _ _

end Source

end BundleManifest.Script
