import BundleManifest.Text.Utf8

/-!
# Reading UTF-8 back

The bytes of a text are read as that text, with no replacement character that the text did not have
before: `Utf8.decodeLossy_encode`, `Utf8.decode_encode`. The reason is `Utf8.piece_utf8EncodeChar`: in
front of anything, the bytes of a character are a piece of their own.

How many bytes follow the first one is told by its value, in four ranges, and a character is written
with as many bytes as its code point needs. So the proof has four cases, one for each length, and in
each of them the bits of the code point are put together again from the bytes. Everything else, texts
and places in them, is by induction from the case of one character.
-/

namespace BundleManifest.Utf8

/-! ## Bytes as numbers -/

theorem isContinuation_iff {b : UInt8} :
    isContinuation b = true ↔ 0x80 ≤ b.toNat ∧ b.toNat < 0xC0 := by
  simp [isContinuation, UInt8.le_iff_toNat_le, UInt8.lt_iff_toNat_lt]

/-- What a byte has to be in order to continue a given lead byte. -/
theorem isSecond_iff {lead b : UInt8} : isSecond lead b = true ↔
    (0x80 ≤ b.toNat ∧ b.toNat < 0xC0) ∧ (lead.toNat ≠ 0xE0 ∨ 0xA0 ≤ b.toNat) ∧
      (lead.toNat ≠ 0xED ∨ b.toNat ≤ 0x9F) ∧ (lead.toNat ≠ 0xF0 ∨ 0x90 ≤ b.toNat) ∧
      (lead.toNat ≠ 0xF4 ∨ b.toNat ≤ 0x8F) := by
  simp [isSecond, isContinuation_iff, ← UInt8.toNat_inj, UInt8.lt_iff_toNat_lt, and_assoc]

theorem following?_of_one {lead : UInt8} (h : lead.toNat < 0x80) : following? lead = some 0 := by
  simp only [following?, UInt8.lt_iff_toNat_lt, UInt8.reduceToNat]
  rw [if_pos h]

theorem following?_of_two {lead : UInt8} (h : 0xC2 ≤ lead.toNat) (h' : lead.toNat < 0xE0) :
    following? lead = some 1 := by
  simp only [following?, UInt8.lt_iff_toNat_lt, UInt8.reduceToNat]
  rw [if_neg (by omega), if_neg (by omega), if_pos h']

theorem following?_of_three {lead : UInt8} (h : 0xE0 ≤ lead.toNat) (h' : lead.toNat < 0xF0) :
    following? lead = some 2 := by
  simp only [following?, UInt8.lt_iff_toNat_lt, UInt8.reduceToNat]
  rw [if_neg (by omega), if_neg (by omega), if_neg (by omega), if_pos h']

theorem following?_of_four {lead : UInt8} (h : 0xF0 ≤ lead.toNat) (h' : lead.toNat < 0xF5) :
    following? lead = some 3 := by
  simp only [following?, UInt8.lt_iff_toNat_lt, UInt8.reduceToNat]
  rw [if_neg (by omega), if_neg (by omega), if_neg (by omega), if_neg (by omega), if_pos h']

/-! ## Pieces -/

theorem piece_of_ascii {lead : UInt8} (h : lead.toNat < 0x80) (rest : List UInt8) :
    piece lead rest = ⟨.ok (Char.ofNat lead.toNat), 0⟩ := by
  rw [piece, following?_of_one h]

/-- A lead byte and as many bytes as must follow it are a piece, if they continue it. -/
theorem piece_of_following {lead second : UInt8} {others : List UInt8} (rest : List UInt8)
    (h : following? lead = some (others.length + 1)) (hsecond : isSecond lead second = true)
    (hothers : ∀ b ∈ others, isContinuation b = true) :
    piece lead (second :: (others ++ rest)) =
      ⟨.ok (Char.ofNat (codePoint (lead.toNat % Nat.pow 2 (5 - others.length)) (second :: others))),
        others.length + 1⟩ := by
  have hcontinues : ∀ b ∈ second :: others, isContinuation b = true :=
    List.forall_mem_cons.2 ⟨isContinuation_iff.2 (isSecond_iff.1 hsecond).1, hothers⟩
  have htake : (second :: (others ++ rest)).take (others.length + 1) = second :: others :=
    @List.take_left _ (second :: others) rest
  have hall : (second :: others).takeWhile isContinuation = second :: others := by
    simpa using @List.takeWhile_append_of_pos _ _ _ [] hcontinues
  have hfound : continuing (others.length + 1) (second :: (others ++ rest)) = others.length + 1 := by
    rw [continuing, htake, hall, List.length_cons]
  rw [piece, h]
  simp only [hsecond, hfound, htake, if_true, Nat.pow_eq]

/-- Before anything, the bytes of a character are a piece that stands for it. -/
theorem piece_utf8EncodeChar (c : Char) : ∃ lead tail, String.utf8EncodeChar c = lead :: tail ∧
    ∀ rest, piece lead (tail ++ rest) = ⟨.ok c, tail.length⟩ := by
  have hbyte : ∀ {k : Nat}, k < 256 → (UInt8.ofNat k).toNat = k := fun h => by
    rw [UInt8.toNat_ofNat', Nat.mod_eq_of_lt h]
  have hvalid : c.val.toNat < 0xD800 ∨ 0xDFFF < c.val.toNat ∧ c.val.toNat < 0x110000 := c.valid
  have hchar : Char.ofNat c.val.toNat = c := Char.ofNat_toNat c
  rw [String.utf8EncodeChar.eq_1]
  generalize c.val.toNat = v at hvalid hchar
  subst hchar
  have hlow : (UInt8.ofNat (v % 64 + 128)).toNat = v % 64 + 128 := hbyte (by omega)
  have hmiddle : (UInt8.ofNat (v / 64 % 64 + 128)).toNat = v / 64 % 64 + 128 := hbyte (by omega)
  have hhigh : (UInt8.ofNat (v / 4096 % 64 + 128)).toNat = v / 4096 % 64 + 128 := hbyte (by omega)
  have hcontinues : isContinuation (UInt8.ofNat (v % 64 + 128)) = true :=
    isContinuation_iff.2 (by omega)
  have hcontinues' : isContinuation (UInt8.ofNat (v / 64 % 64 + 128)) = true :=
    isContinuation_iff.2 (by omega)
  -- One case for each number of bytes. In each of them the number is put together again.
  split
  · refine ⟨_, _, rfl, fun rest => ?_⟩
    have hlead : (UInt8.ofNat v).toNat = v := hbyte (by omega)
    rw [List.nil_append, piece_of_ascii (by omega), hlead, List.length_nil]
  split
  · refine ⟨_, _, rfl, fun rest => ?_⟩
    have hlead : (UInt8.ofNat (v / 64 % 32 + 192)).toNat = v / 64 % 32 + 192 := hbyte (by omega)
    have hcode : codePoint ((v / 64 % 32 + 192) % 32) [UInt8.ofNat (v % 64 + 128)] = v := by
      simp only [codePoint_cons, codePoint_nil, hlow]
      omega
    refine (piece_of_following rest (following?_of_two (by omega) (by omega))
      (isSecond_iff.2 (by omega)) (List.forall_mem_nil _)).trans ?_
    simp only [hlead, List.length_nil, Nat.sub_zero, hcode, List.length_singleton]
  split
  · refine ⟨_, _, rfl, fun rest => ?_⟩
    have hlead : (UInt8.ofNat (v / 4096 % 16 + 224)).toNat = v / 4096 % 16 + 224 := hbyte (by omega)
    have hcode : codePoint ((v / 4096 % 16 + 224) % 16)
        [UInt8.ofNat (v / 64 % 64 + 128), UInt8.ofNat (v % 64 + 128)] = v := by
      simp only [codePoint_cons, codePoint_nil, hlow, hmiddle]
      omega
    refine (piece_of_following rest (following?_of_three (by omega) (by omega))
      (isSecond_iff.2 (by omega)) (List.forall_mem_singleton.2 hcontinues)).trans ?_
    simp only [hlead, List.length_cons, List.length_nil, Nat.reduceAdd, Nat.reduceSub, hcode]
  · refine ⟨_, _, rfl, fun rest => ?_⟩
    have hlead : (UInt8.ofNat (v / 262144 % 8 + 240)).toNat = v / 262144 % 8 + 240 := hbyte (by omega)
    have hcode : codePoint ((v / 262144 % 8 + 240) % 8)
        [UInt8.ofNat (v / 4096 % 64 + 128), UInt8.ofNat (v / 64 % 64 + 128),
          UInt8.ofNat (v % 64 + 128)] = v := by
      simp only [codePoint_cons, codePoint_nil, hlow, hmiddle, hhigh]
      omega
    refine (piece_of_following rest (following?_of_four (by omega) (by omega))
      (isSecond_iff.2 (by omega))
      (List.forall_mem_cons.2 ⟨hcontinues', List.forall_mem_singleton.2 hcontinues⟩)).trans ?_
    simp only [hlead, List.length_cons, List.length_nil, Nat.reduceAdd, Nat.reduceSub, hcode]

/-! ## Texts -/

/-- The bytes of a text are read as the text. -/
theorem decodeLossy_encode (text : List Char) : decodeLossy (encode text) = text := by
  induction text with
  | nil => rw [encode_nil, decodeLossy]
  | cons c text ih =>
    obtain ⟨lead, tail, hbytes, hpiece⟩ := piece_utf8EncodeChar c
    rw [encode_cons, hbytes, List.cons_append, decodeLossy, hpiece]
    simp only [List.drop_left, ih]

/-- An encoded text is read back, from whatever place. -/
theorem decodeFrom_encode (position : Nat) (text : List Char) :
    decodeFrom position (encode text) = .ok text := by
  induction text generalizing position with
  | nil => rw [encode_nil, decodeFrom]
  | cons c text ih =>
    obtain ⟨lead, tail, hbytes, hpiece⟩ := piece_utf8EncodeChar c
    rw [encode_cons, hbytes, List.cons_append, decodeFrom, hpiece]
    simp only [List.drop_left, ih, Except.map]

/-- The bytes of a text are those of a text. -/
theorem decode_encode (text : List Char) : decode (encode text) = .ok text :=
  decodeFrom_encode 0 text

theorem encode_injective {s t : List Char} (h : encode s = encode t) : s = t := by
  rw [← decodeLossy_encode s, h, decodeLossy_encode]

end BundleManifest.Utf8
