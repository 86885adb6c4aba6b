/-
Texts as their UTF-8 bytes.  A scan for ASCII patterns over the bytes of a text
sees what a scan over its characters sees, and never stops inside a character:
the bytes of a character outside ASCII are all outside ASCII.
-/
import Proxxx.Base64Text

namespace Utf8Text

open List

def encode (chars : List Char) : List UInt8 :=
  chars.flatMap String.utf8EncodeChar

/-- A byte inside a character. -/
def isContinuation (byte : UInt8) : Bool :=
  decide (128 ≤ byte ∧ byte < 192)

/-- The bytes behind an index where a text may be cut. -/
def isBoundary : List UInt8 → Bool
  | [] => true
  | byte :: _ => !isContinuation byte

/-- `to_ascii_lowercase` of one byte. -/
def lowerByte (byte : UInt8) : UInt8 :=
  if 65 ≤ byte ∧ byte ≤ 90 then byte + 32 else byte

section Characters

variable {c : Char}

@[simp] theorem encode_nil : encode [] = [] := rfl

@[simp] theorem encode_cons (rest : List Char) :
    encode (c :: rest) = String.utf8EncodeChar c ++ encode rest := rfl

@[simp] theorem encode_append (front rest : List Char) :
    encode (front ++ rest) = encode front ++ encode rest :=
  flatMap_append

theorem utf8EncodeChar_of_ascii (hascii : c.toNat < 128) :
    String.utf8EncodeChar c = [UInt8.ofNat c.toNat] :=
  if_pos (Nat.le_of_lt_succ hascii)

theorem toNat_toLower (c : Char) : c.toLower.toNat =
    if 65 ≤ c.toNat ∧ c.toNat ≤ 90 then c.toNat + 32 else c.toNat := by
  have hrange : (c.val ≥ 'A'.val ∧ c.val ≤ 'Z'.val) ↔ 65 ≤ c.toNat ∧ c.toNat ≤ 90 := Iff.rfl
  unfold Char.toLower
  by_cases hupper : 65 ≤ c.toNat ∧ c.toNat ≤ 90
  · rw [dif_pos (hrange.mpr hupper), if_pos hupper]
    change (c.val + ('a'.val - 'A'.val)).toNat = c.val.toNat + 32
    have hstep : ('a'.val - 'A'.val).toNat = 32 := rfl
    have hbound : c.val.toNat ≤ 90 := hupper.2
    rw [UInt32.toNat_add, hstep]
    omega
  · rw [dif_neg (mt hrange.mp hupper), if_neg hupper]

theorem toNat_ofNat_byte {value : Nat} (hvalue : value < 256) :
    (UInt8.ofNat value).toNat = value := by
  rw [UInt8.toNat_ofNat']
  exact Nat.mod_eq_of_lt hvalue

theorem isContinuation_ofNat {value : Nat} (hlow : 128 ≤ value)
    (hhigh : value < 192) : isContinuation (UInt8.ofNat value) = true := by
  simp only [isContinuation, UInt8.le_iff_toNat_le, UInt8.lt_iff_toNat_lt,
    toNat_ofNat_byte (show value < 256 by omega), decide_eq_true_eq]
  exact ⟨hlow, hhigh⟩

/-- The number of bytes that the first one announces. -/
def leadLength (lead : UInt8) : Nat :=
  if lead < 192 then 1
  else if lead < 224 then 2
  else if lead < 240 then 3
  else 4

theorem leadLength_ofNat {value : Nat} (hvalue : value < 256) :
    leadLength (UInt8.ofNat value) = if value < 192 then 1
      else if value < 224 then 2
      else if value < 240 then 3
      else 4 := by
  simp only [leadLength, UInt8.lt_iff_toNat_lt, toNat_ofNat_byte hvalue]
  rfl

/-- A character outside ASCII begins with a byte that tells its length, and its
other bytes are inside it. -/
theorem utf8EncodeChar_of_wide (hwide : 128 ≤ c.toNat) :
    ∃ lead more, String.utf8EncodeChar c = lead :: more ∧ 192 ≤ lead ∧
      more.length + 1 = leadLength lead ∧
      ∀ byte ∈ more, isContinuation byte = true := by
  have hvalid : c.val.toNat < 1114112 := by
    have hrange := c.valid
    simp only [UInt32.isValidChar, Nat.isValidChar] at hrange
    omega
  have hnarrow : ¬ c.val.toNat ≤ 127 := Nat.not_le_of_gt hwide
  have htail : ∀ value : Nat, isContinuation (UInt8.ofNat (value % 64 + 128)) = true :=
    fun value => isContinuation_ofNat (by omega) (by omega)
  have hlead : ∀ value < 256, 192 ≤ value → (192 : UInt8) ≤ .ofNat value := by
    intro value hvalue hlow
    rw [UInt8.le_iff_toNat_le, toNat_ofNat_byte hvalue]
    exact hlow
  unfold String.utf8EncodeChar
  simp only [if_neg hnarrow]
  split_ifs
  all_goals
    refine ⟨_, _, rfl, hlead _ (by omega) (by omega), ?_, by
      simp only [forall_mem_cons, htail, not_mem_nil, false_implies, implies_true, and_self]⟩
    rw [leadLength_ofNat (by omega)]
    split_ifs <;> first | rfl | omega

end Characters

section Scans

variable {c : Char} {chars : List Char}

theorem isContinuation_eq_false {byte : UInt8} (hout : byte < 128 ∨ 192 ≤ byte) :
    isContinuation byte = false := by
  simp only [isContinuation, UInt8.le_iff_toNat_le, UInt8.lt_iff_toNat_lt,
    decide_eq_false_iff_not, not_and] at hout ⊢
  have hlow : (128 : UInt8).toNat = 128 := rfl
  have hhigh : (192 : UInt8).toNat = 192 := rfl
  omega

/-- A text may be cut in front of any of its characters. -/
theorem isBoundary_encode (chars : List Char) : isBoundary (encode chars) = true := by
  cases chars with
  | nil => rfl
  | cons c rest =>
    rw [encode_cons]
    rcases Nat.lt_or_ge c.toNat 128 with hascii | hwide
    · rw [utf8EncodeChar_of_ascii hascii]
      have hbyte : UInt8.ofNat c.toNat < 128 := by
        rw [UInt8.lt_iff_toNat_lt, toNat_ofNat_byte (by omega)]
        exact hascii
      simp [isBoundary, isContinuation_eq_false (.inl hbyte)]
    · obtain ⟨lead, more, hbytes, hlead, -, -⟩ := utf8EncodeChar_of_wide hwide
      rw [hbytes]
      simp [isBoundary, isContinuation_eq_false (.inr hlead)]

/-- The bytes of an ASCII text. -/
def asciiBytes (text : List Char) : List UInt8 :=
  text.map fun c => UInt8.ofNat c.toNat

theorem encode_of_ascii (hascii : ∀ c ∈ chars, c.toNat < 128) :
    encode chars = asciiBytes chars := by
  induction chars with
  | nil => rfl
  | cons c rest ih =>
    obtain ⟨hc, hrest⟩ := forall_mem_cons.mp hascii
    rw [encode_cons, utf8EncodeChar_of_ascii hc, ih hrest]
    rfl

theorem length_encode_of_ascii {chars : List Char} (hascii : ∀ c ∈ chars, c.toNat < 128) :
    (encode chars).length = chars.length := by
  rw [encode_of_ascii hascii, asciiBytes, length_map]

theorem fromUTF8?_encode (text : List Char) :
    String.fromUTF8? (encode text).toByteArray = some (String.ofList text) :=
  dif_pos (String.ofList text).isValidUTF8

theorem lowerByte_ofNat (hascii : c.toNat < 128) :
    lowerByte (UInt8.ofNat c.toNat) = UInt8.ofNat c.toLower.toNat := by
  have hall : ∀ value : Fin 128, lowerByte (UInt8.ofNat value) =
      UInt8.ofNat (Char.ofNat value).toLower.toNat := by decide +kernel
  have hc := hall ⟨c.toNat, hascii⟩
  rwa [Char.ofNat_toNat] at hc

theorem ofNat_toNat_inj {c d : Char} (hc : c.toNat < 128) (hd : d.toNat < 256) :
    UInt8.ofNat c.toNat = UInt8.ofNat d.toNat ↔ c = d := by
  rw [← UInt8.toNat_inj, toNat_ofNat_byte (by omega), toNat_ofNat_byte hd, Char.toNat_inj]

/-- A pattern of ASCII characters is found in the lower-case bytes of a text
where it is found in its lower-case characters. -/
theorem isPrefixOf_lower_encode {pattern : List Char} (hpattern : ∀ c ∈ pattern, c.toNat < 128) :
    (asciiBytes pattern).isPrefixOf ((encode chars).map lowerByte) =
      pattern.isPrefixOf (chars.map Char.toLower) := by
  induction pattern generalizing chars with
  | nil => simp [asciiBytes]
  | cons first others ih =>
    obtain ⟨hfirst, hothers⟩ := forall_mem_cons.mp hpattern
    cases chars with
    | nil => rfl
    | cons c rest =>
      have hbytes : asciiBytes (first :: others) =
          UInt8.ofNat first.toNat :: asciiBytes others := rfl
      rw [hbytes, encode_cons, map_append, map_cons, isPrefixOf_cons_cons]
      have hlower := toNat_toLower c
      rcases Nat.lt_or_ge c.toNat 128 with hascii | hwide
      · rw [utf8EncodeChar_of_ascii hascii, map_singleton,
          singleton_append, isPrefixOf_cons_cons, ih hothers,
          lowerByte_ofNat hascii]
        have hbound : c.toLower.toNat < 256 := by
          rw [hlower]
          split <;> omega
        congr 1
        rw [Bool.eq_iff_iff, beq_iff_eq, beq_iff_eq, ofNat_toNat_inj hfirst hbound]
      · obtain ⟨lead, more, hchar, hlead, -, -⟩ := utf8EncodeChar_of_wide hwide
        have hleadNat : 192 ≤ lead.toNat := UInt8.le_iff_toNat_le.mp hlead
        have hsame : lowerByte lead = lead := by
          rw [lowerByte, if_neg]
          rw [UInt8.le_iff_toNat_le, UInt8.le_iff_toNat_le]
          exact fun hrange => absurd (Nat.le_trans hleadNat hrange.2) (by decide)
        have hbyte : (UInt8.ofNat first.toNat == lowerByte lead) = false := by
          rw [beq_eq_false_iff_ne, hsame]
          rintro rfl
          rw [toNat_ofNat_byte (by omega)] at hleadNat
          omega
        have hchars : (first == c.toLower) = false := by
          rw [beq_eq_false_iff_ne]
          rintro rfl
          rw [hlower] at hfirst
          split at hfirst <;> omega
        rw [hchar, map_cons, cons_append, isPrefixOf_cons_cons, hbyte, hchars]
        rfl

theorem le_of_mem_wide {lead : UInt8} {more : List UInt8} (hlead : 192 ≤ lead)
    (hmore : ∀ byte ∈ more, isContinuation byte = true) {byte : UInt8}
    (hbyte : byte ∈ lead :: more) : 128 ≤ byte := by
  rcases mem_cons.mp hbyte with rfl | hmem
  · exact UInt8.le_trans (by decide) hlead
  · exact (of_decide_eq_true (hmore byte hmem)).1

/-- A run that ends at certain ASCII characters ends at the same place in the
bytes. -/
theorem dropWhile_encode {stopByte : UInt8 → Bool} {stop : Char → Bool}
    (hstop : ∀ c : Char, c.toNat < 128 → stopByte (UInt8.ofNat c.toNat) = stop c)
    (hwide : ∀ byte, 128 ≤ byte → stopByte byte = false)
    (hchar : ∀ c : Char, 128 ≤ c.toNat → stop c = false) :
    (encode chars).dropWhile (!stopByte ·) = encode (chars.dropWhile (!stop ·)) := by
  induction chars with
  | nil => rfl
  | cons c rest ih =>
    rw [encode_cons]
    rcases Nat.lt_or_ge c.toNat 128 with hascii | hlarge
    · rw [utf8EncodeChar_of_ascii hascii, singleton_append,
        dropWhile_cons, dropWhile_cons, hstop c hascii, ih]
      cases stop c with
      | true =>
        change _ = encode (c :: rest)
        rw [encode_cons, utf8EncodeChar_of_ascii hascii]
        rfl
      | false => rfl
    · obtain ⟨lead, more, hbytes, hlead, -, hmore⟩ := utf8EncodeChar_of_wide hlarge
      have hall : ∀ byte ∈ String.utf8EncodeChar c, (!stopByte byte) = true := by
        rw [hbytes]
        intro byte hbyte
        rw [hwide byte (le_of_mem_wide hlead hmore hbyte)]
        rfl
      rw [dropWhile_append_of_pos hall, ih, dropWhile_cons, hchar c hlarge]
      rfl

end Scans

end Utf8Text
