import ScriptCheck.Proofs.Runs

/-! # Decoding Loses Nothing

  A source file is read as UTF-8 if its bytes encode some text, and then as that
  text. Otherwise every byte is read as the character with its code point. So no
  file is unreadable for its bytes, and the bytes can always be had back.

  The encoder is written out in terms of code points. Its image is described in
  terms of bytes: characters in their shortest form, none of them a surrogate or
  above U+10FFFF, and none cut off. So whether a file is read as UTF-8 can be told
  from its bytes one character at a time.
-/

namespace ScriptCheck

namespace Text

/-! ## Section 1: Encoders -/

/-- The byte that carries the last six bits of a number. -/
def tailByte (v : Nat) : UInt8 := .ofNat (0x80 + v % 64)

/-- The UTF-8 encoding of a character: its code point in groups of six bits, in as few bytes as
    hold it. The first byte says how many there are. -/
def encodeChar (c : Char) : List UInt8 :=
  let v := c.toNat
  if v < 0x80 then [.ofNat v]
  else if v < 0x800 then [.ofNat (0xC0 + v / 64), tailByte v]
  else if v < 0x10000 then [.ofNat (0xE0 + v / 4096), tailByte (v / 64), tailByte v]
  else [.ofNat (0xF0 + v / 262144), tailByte (v / 4096), tailByte (v / 64), tailByte v]

def encodeUTF8 (s : String) : List UInt8 := s.toList.flatMap encodeChar

/-- The Latin-1 encoding of a character, if it has one. -/
def encodeLatin1Char? (c : Char) : Option UInt8 :=
  if c.toNat < 0x100 then some (.ofNat c.toNat) else none

def encodeLatin1? (s : String) : Option (List UInt8) := s.toList.mapM encodeLatin1Char?

section encoders

theorem toNat_charOfNat {v : Nat} (h : v.isValidChar) : (Char.ofNat v).toNat = v := by
  rw [Char.ofNat, dif_pos h]
  rfl

theorem toNat_byteOfNat {v : Nat} (h : v < 0x100) : (UInt8.ofNat v).toNat = v :=
  UInt8.toNat_ofNat_of_lt' h

theorem toNat_tailByte (v : Nat) : (tailByte v).toNat = 0x80 + v % 64 := by
  apply toNat_byteOfNat
  omega

/-- The encoder is the one by which strings are stored. -/
theorem encodeChar_eq (c : Char) : encodeChar c = String.utf8EncodeChar c := by
  have hvalid : c.toNat.isValidChar := c.valid
  have htail (w : Nat) : tailByte w = .ofNat (w % 0x40 + 0x80) :=
    congrArg UInt8.ofNat (Nat.add_comm _ _)
  unfold Nat.isValidChar at hvalid
  unfold encodeChar String.utf8EncodeChar
  rw [Char.toNat_val]
  generalize c.toNat = v at hvalid
  simp only [htail]
  -- both go by the same ranges, and within a range the first bytes agree
  by_cases hone : v < 0x80
  · rw [if_pos hone, if_pos (by omega)]
  by_cases htwo : v < 0x800
  · have hlead : 0xC0 + v / 64 = v / 64 % 0x20 + 0xC0 := by omega
    rw [if_neg hone, if_pos htwo, if_neg (by omega), if_pos (by omega), hlead]
  by_cases hthree : v < 0x10000
  · have hlead : 0xE0 + v / 4096 = v / 4096 % 0x10 + 0xE0 := by omega
    rw [if_neg hone, if_neg htwo, if_pos hthree, if_neg (by omega), if_neg (by omega),
      if_pos (by omega), hlead]
  · have hlead : 0xF0 + v / 262144 = v / 262144 % 0x08 + 0xF0 := by omega
    rw [if_neg hone, if_neg htwo, if_neg hthree, if_neg (by omega), if_neg (by omega),
      if_neg (by omega), hlead]

theorem toList_loop_eq (bytes : ByteArray) (i : Nat) (read : List UInt8) :
    ByteArray.toList.loop bytes i read = read.reverse ++ bytes.data.toList.drop i := by
  fun_induction ByteArray.toList.loop bytes i read with
  | case1 i read h ih =>
    have hi : i < bytes.data.toList.length := by simpa using h
    rw [ih, List.drop_eq_getElem_cons hi]
    simp [ByteArray.get!, h]
  | case2 i read h =>
    have hi : bytes.data.toList.length ≤ i := by simpa using h
    rw [List.drop_eq_nil_of_le hi, List.append_nil]

/-- The bytes of a file, one by one. -/
theorem toList_eq_data (bytes : ByteArray) : bytes.toList = bytes.data.toList :=
  toList_loop_eq bytes 0 []

/-- A text is encoded by the bytes by which it is stored. -/
theorem encodeUTF8_eq_toList_iff {s : String} {bytes : ByteArray} :
    encodeUTF8 s = bytes.toList ↔ s.toUTF8 = bytes := by
  have hstored : s.toUTF8 = (encodeUTF8 s).toByteArray := by
    rw [String.toUTF8_eq_toByteArray, ← String.utf8Encode_toList, List.utf8Encode, encodeUTF8,
      funext encodeChar_eq]
  rw [hstored, toList_eq_data, ByteArray.ext_iff, ← Array.toList_inj, List.toList_data_toByteArray]

end encoders

/-! ## Section 2: Well-formed bytes -/

/-- The byte continues a character. -/
structure IsTail (b : UInt8) : Prop where
  low : 0x80 ≤ b.toNat
  high : b.toNat ≤ 0xBF

/-- The bytes are one character. More bytes than needed, a surrogate and a number above U+10FFFF all
    show in the first two bytes. -/
inductive WellFormedChar : List UInt8 → Prop where
  | one {a : UInt8} (ha : a.toNat ≤ 0x7F) : WellFormedChar [a]
  | two {a b : UInt8} (ha : 0xC2 ≤ a.toNat ∧ a.toNat ≤ 0xDF) (hb : IsTail b) :
      WellFormedChar [a, b]
  -- the second byte must not make a short encoding long, nor name a surrogate
  | three {a b c : UInt8} (ha : 0xE0 ≤ a.toNat ∧ a.toNat ≤ 0xEF) (hb : IsTail b) (hc : IsTail c)
      (hshort : a.toNat = 0xE0 → 0xA0 ≤ b.toNat)
      (hsurrogate : a.toNat = 0xED → b.toNat ≤ 0x9F) : WellFormedChar [a, b, c]
  | four {a b c d : UInt8} (ha : 0xF0 ≤ a.toNat ∧ a.toNat ≤ 0xF4) (hb : IsTail b) (hc : IsTail c)
      (hd : IsTail d) (hshort : a.toNat = 0xF0 → 0x90 ≤ b.toNat)
      (hrange : a.toNat = 0xF4 → b.toNat ≤ 0x8F) : WellFormedChar [a, b, c, d]

/-- The bytes are characters one behind the other. -/
inductive WellFormed : List UInt8 → Prop where
  | nil : WellFormed []
  | cons {char rest : List UInt8} (hchar : WellFormedChar char) (hrest : WellFormed rest) :
      WellFormed (char ++ rest)

theorem isTail_tailByte (v : Nat) : IsTail (tailByte v) := by
  constructor <;> rw [toNat_tailByte] <;> omega

/-- A continuing byte carries its own last six bits. -/
theorem tailByte_eq {b : UInt8} (hb : IsTail b) {v : Nat} (hv : v % 64 = b.toNat - 0x80) :
    tailByte v = b := by
  have ⟨hlow, hhigh⟩ := hb
  rw [← UInt8.toNat_inj, toNat_tailByte]
  omega

theorem wellFormedChar_encodeChar (c : Char) : WellFormedChar (encodeChar c) := by
  have hvalid : c.toNat.isValidChar := c.valid
  unfold Nat.isValidChar at hvalid
  unfold encodeChar
  -- of the character only that its code point is valid is needed
  generalize c.toNat = v at hvalid
  simp only
  split
  case isTrue h =>
    -- up to 0x7F, then up to 0x7FF, up to 0xFFFF, and beyond
    refine .one ?_
    rw [toNat_byteOfNat (by omega)]
    omega
  case isFalse hone =>
  split
  case isTrue h =>
    refine .two ?_ (isTail_tailByte _)
    rw [toNat_byteOfNat (by omega)]
    omega
  case isFalse htwo =>
  split
  case isTrue h =>
    -- the first byte carries the highest bits, from which the bounds on the second byte follow
    have hlead : (UInt8.ofNat (0xE0 + v / 4096)).toNat = 0xE0 + v / 4096 :=
      toNat_byteOfNat (by omega)
    refine .three ?_ (isTail_tailByte _) (isTail_tailByte _) ?_ ?_
    all_goals rw [hlead]
    · omega
    · rw [toNat_tailByte]
      omega
    · rw [toNat_tailByte]
      omega
  case isFalse hthree =>
    have hlead : (UInt8.ofNat (0xF0 + v / 262144)).toNat = 0xF0 + v / 262144 :=
      toNat_byteOfNat (by omega)
    refine .four ?_ (isTail_tailByte _) (isTail_tailByte _) (isTail_tailByte _) ?_ ?_
    all_goals rw [hlead]
    · omega
    · rw [toNat_tailByte]
      omega
    · rw [toNat_tailByte]
      omega

/-- The six bits of the continuing bytes behind those of the first byte make up the code point. -/
theorem WellFormedChar.exists_char {bytes : List UInt8} (h : WellFormedChar bytes) :
    ∃ c, encodeChar c = bytes := by
  cases h with
  | @one a ha =>
    have hchar : (Char.ofNat a.toNat).toNat = a.toNat := toNat_charOfNat (.inl (by omega))
    refine ⟨.ofNat a.toNat, ?_⟩
    rw [encodeChar, hchar, if_pos (by omega), UInt8.ofNat_toNat]
  | @two a b ha hb =>
    obtain ⟨v, hv⟩ : ∃ v, v = (a.toNat - 0xC0) * 64 + (b.toNat - 0x80) := ⟨_, rfl⟩
    have ⟨hblow, hbhigh⟩ := hb
    have hchar : (Char.ofNat v).toNat = v := toNat_charOfNat (.inl (by omega))
    have hlead : 0xC0 + v / 64 = a.toNat := by omega
    refine ⟨.ofNat v, ?_⟩
    rw [encodeChar, hchar, if_neg (by omega), if_pos (by omega), hlead, UInt8.ofNat_toNat,
      tailByte_eq hb (by omega)]
  | @three a b c ha hb hc hshort hsurrogate =>
    obtain ⟨v, hv⟩ : ∃ v, v = (a.toNat - 0xE0) * 4096 + (b.toNat - 0x80) * 64 + (c.toNat - 0x80) :=
      ⟨_, rfl⟩
    have ⟨hblow, hbhigh⟩ := hb
    have ⟨hclow, hchigh⟩ := hc
    -- the two exceptions for the second byte keep the code point in range and out of the surrogates
    have hvalid : v.isValidChar := by
      unfold Nat.isValidChar
      omega
    have hlead : 0xE0 + v / 4096 = a.toNat := by omega
    refine ⟨.ofNat v, ?_⟩
    -- the code point is too large for fewer bytes, and its last groups of bits are the tail bytes
    rw [encodeChar, toNat_charOfNat hvalid, if_neg (by omega), if_neg (by omega),
      if_pos (by omega), hlead, UInt8.ofNat_toNat, tailByte_eq hb (by omega),
      tailByte_eq hc (by omega)]
  | @four a b c d ha hb hc hd hshort hrange =>
    obtain ⟨v, hv⟩ : ∃ v, v = (a.toNat - 0xF0) * 262144 + (b.toNat - 0x80) * 4096 +
        (c.toNat - 0x80) * 64 + (d.toNat - 0x80) := ⟨_, rfl⟩
    have ⟨hblow, hbhigh⟩ := hb
    have ⟨hclow, hchigh⟩ := hc
    have ⟨hdlow, hdhigh⟩ := hd
    have hvalid : v.isValidChar := by
      unfold Nat.isValidChar
      omega
    have hlead : 0xF0 + v / 262144 = a.toNat := by omega
    refine ⟨.ofNat v, ?_⟩
    rw [encodeChar, toNat_charOfNat hvalid, if_neg (by omega), if_neg (by omega),
      if_neg (by omega), hlead, UInt8.ofNat_toNat, tailByte_eq hb (by omega),
      tailByte_eq hc (by omega), tailByte_eq hd (by omega)]

/-- The well-formed bytes are those that encode a text. -/
theorem wellFormed_iff {bytes : List UInt8} : WellFormed bytes ↔ ∃ s, encodeUTF8 s = bytes := by
  constructor
  · intro h
    -- along the characters, each of which encodes one
    induction h with
    | nil => exact ⟨"", rfl⟩
    | cons hchar hrest ih =>
      obtain ⟨c, rfl⟩ := hchar.exists_char
      obtain ⟨s, rfl⟩ := ih
      refine ⟨String.ofList (c :: s.toList), ?_⟩
      rw [encodeUTF8, String.toList_ofList, List.flatMap_cons, encodeUTF8]
  · rintro ⟨s, rfl⟩
    unfold encodeUTF8
    induction s.toList with
    | nil => exact .nil
    | cons c cs ih => exact .cons (wellFormedChar_encodeChar c) ih

/-! ## Section 3: Decoding -/

section decoding
variable {bytes : ByteArray}

/-- The encoding of a text is decoded to the text. -/
theorem decodeSource_of_encodes {s : String} (h : encodeUTF8 s = bytes.toList) :
    decodeSource bytes = s := by
  rw [decodeSource, fromUTF8?_eq_some_iff.mpr (encodeUTF8_eq_toList_iff.mp h), Option.getD_some]

/-- Bytes that encode no text are decoded one by one. -/
theorem decodeSource_of_not_encodes (h : ∀ s, encodeUTF8 s ≠ bytes.toList) :
    decodeSource bytes = decodeLatin1 bytes := by
  have hnone : String.fromUTF8? bytes = none :=
    fromUTF8?_eq_none_iff.mpr fun s hs => h s (encodeUTF8_eq_toList_iff.mpr hs)
  rw [decodeSource, hnone, Option.getD_none]

/-- Every byte becomes the character with its code point. -/
theorem codePoints_decodeLatin1 (bytes : ByteArray) :
    (decodeLatin1 bytes).toList.map Char.toNat = bytes.toList.map UInt8.toNat := by
  rw [decodeLatin1, String.toList_ofList, List.map_map]
  refine List.map_congr_left fun b _ => toNat_charOfNat (.inl ?_)
  have hlt := b.toNat_lt
  omega

/-- Characters whose code points are bytes are encoded by those bytes. -/
theorem mapM_encodeLatin1Char {cs : List Char} {bs : List UInt8}
    (h : cs.map Char.toNat = bs.map UInt8.toNat) : cs.mapM encodeLatin1Char? = some bs := by
  -- character by character: each is the byte with its code point
  induction cs generalizing bs with
  | nil =>
    obtain rfl : bs = [] := List.map_eq_nil_iff.mp h.symm
    rfl
  | cons c cs ih =>
    obtain ⟨b, bs, rfl⟩ : ∃ b bs', bs = b :: bs' := by
      cases bs with
      | nil => cases h
      | cons b bs => exact ⟨b, bs, rfl⟩
    rw [List.map_cons, List.map_cons, List.cons.injEq] at h
    have hchar : encodeLatin1Char? c = some b := by
      rw [encodeLatin1Char?, h.1, if_pos b.toNat_lt, UInt8.ofNat_toNat]
    rw [List.mapM_cons, hchar, ih h.2]
    rfl

end decoding

end Text

namespace CommandLine

/-! ## Section 4: The main result -/

open Text

/-- No file is unreadable for its bytes, and none of them is lost. Bytes that encode a text in
    UTF-8 are read as that text. Any others are read as one character for each byte, with the byte
    as its code point, so that the text in Latin-1 is the file again. The former are just the bytes
    that are well-formed. -/
theorem readSource_loses_nothing {files : Files} {path : String} {bytes : ByteArray}
    (h : files.entry path = .file bytes) :
    (∃ s, readSource files path = .ok s) ∧
      (∀ s, encodeUTF8 s = bytes.toList → readSource files path = .ok s) ∧
      ((∀ s, encodeUTF8 s ≠ bytes.toList) → ∃ s, readSource files path = .ok s ∧
        s.toList.map Char.toNat = bytes.toList.map UInt8.toNat ∧
        encodeLatin1? s = some bytes.toList) ∧
      (WellFormed bytes.toList ↔ ∃ s, encodeUTF8 s = bytes.toList) := by
  -- the file is there, so all that can differ is the decoding
  have hread : readSource files path = .ok (decodeSource bytes) := by
    rw [readSource, Files.read_of_file h]
    rfl
  refine ⟨⟨_, hread⟩, ?_, ?_, wellFormed_iff⟩
  · intro s hs
    rw [hread, decodeSource_of_encodes hs]
  · intro hnone
    have hcodes := codePoints_decodeLatin1 bytes
    rw [decodeSource_of_not_encodes hnone] at hread
    exact ⟨_, hread, hcodes, mapM_encodeLatin1Char hcodes⟩

/-- The theorem at one text in two files, one in UTF-8 and one in Latin-1, in which the single byte
    of the accented letter starts a character that the quote behind it does not continue. -/
theorem readSource_loses_nothing_accent :
    let text := "x = 'café'"
    let utf8 : ByteArray := text.toUTF8
    let latin1 : List UInt8 := [0x78, 0x20, 0x3D, 0x20, 0x27, 0x63, 0x61, 0x66, 0xE9, 0x27]
    let files : Files :=
      { entry := fun path => .file (if path = "utf8.py" then utf8 else latin1.toByteArray)
        platformSettings := none }
    files.entry "utf8.py" = .file utf8 ∧ files.entry "latin1.py" = .file latin1.toByteArray ∧
      encodeUTF8 text = utf8.toList ∧ (∀ s, encodeUTF8 s ≠ latin1.toByteArray.toList) ∧
      readSource files "utf8.py" = .ok text ∧ readSource files "latin1.py" = .ok text := by
  intro text utf8 latin1 files
  have hutf8 : files.entry "utf8.py" = .file utf8 := rfl
  have hlatin1 : files.entry "latin1.py" = .file latin1.toByteArray := rfl
  have hencodes : encodeUTF8 text = utf8.toList := encodeUTF8_eq_toList_iff.mpr rfl
  have hbytes : latin1.toByteArray.toList = latin1 := by
    rw [toList_eq_data, List.toList_data_toByteArray]
  -- the byte `0xE9` asks for two tail bytes, and a quote is none
  have hnone : ∀ s, encodeUTF8 s ≠ latin1.toByteArray.toList := by
    have hinvalid : String.fromUTF8? latin1.toByteArray = none := by decide +kernel
    intro s hs
    exact fromUTF8?_eq_none_iff.mp hinvalid s (encodeUTF8_eq_toList_iff.mp hs)
  obtain ⟨-, hread, -, -⟩ := readSource_loses_nothing hutf8
  obtain ⟨-, -, hfallback, -⟩ := readSource_loses_nothing hlatin1
  obtain ⟨s, hs, hcodes, -⟩ := hfallback hnone
  -- the text is known from its code points, which are the bytes of the file
  have hcodes' : s.toList.map Char.toNat = text.toList.map Char.toNat := by
    rw [hcodes, hbytes]
    decide
  obtain rfl : s = text :=
    String.toList_inj.mp (List.map_inj_right (fun _ _ => Char.toNat_inj.mp) |>.mp hcodes')
  exact ⟨hutf8, hlatin1, hencodes, hnone, hread _ hencodes, hs⟩

end CommandLine

end ScriptCheck
