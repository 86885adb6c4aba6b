/-
Pinned certificate fingerprints: 32 bytes as colon-separated hexadecimal pairs or as 64
digits.  A segment is read as a number, so it may also be a plus sign and one digit.
-/
import Mathlib
import Proxxx.HexText
import Proxxx.RustStr

namespace Proxxx.TlsPin

open List RustStr HexText

section Source

inductive FingerprintError where
  | empty
  | segments (count : Nat)
  | segmentLength (index : Nat) (part : String)
  | segmentDigits (index : Nat) (part : String)
  | length (bytes : Nat)
  | notHex
deriving Repr, DecidableEq

/-- `u8::from_str_radix` with radix 16: a plus sign in front of digits is passed over. -/
def fromStrRadix16 (part : List Char) : Option UInt8 :=
  let digits :=
    match part with
    | '+' :: c :: rest => c :: rest
    | _ => part
  if digits.isEmpty then none
  else
    (digits.mapM digitValue).bind fun values =>
      let value := values.foldl (fun total v => 16 * total + v) 0
      if value < 256 then some (UInt8.ofNat value) else none

/-- The loop over the segments. -/
def parseSegments : Nat → List String → Except FingerprintError (List UInt8)
  | _, [] => .ok []
  | index, part :: rest =>
    if part.utf8ByteSize ≠ 2 then .error (.segmentLength index part)
    else
      match fromStrRadix16 part.toList with
      | none => .error (.segmentDigits index part)
      | some byte => (parseSegments (index + 1) rest).map (byte :: ·)

def parseSha256Fingerprint (raw : String) : Except FingerprintError (List UInt8) :=
  let trimmed := RustStr.trim raw
  if trimmed.isEmpty then .error .empty
  else if ':' ∈ trimmed.toList then
    let parts := RustStr.split trimmed ':'
    if parts.length ≠ 32 then .error (.segments parts.length) else parseSegments 0 parts
  else if trimmed.utf8ByteSize ≠ 64 then .error (.length trimmed.utf8ByteSize)
  else
    match HexText.decode trimmed with
    | none => .error .notHex
    | some decoded => .ok decoded

/-- Two uppercase digits. -/
def upperPair (byte : UInt8) : String :=
  String.ofList [(digit (byte.toNat / 16)).toUpper, (digit (byte.toNat % 16)).toUpper]

def formatColonFingerprint (bytes : List UInt8) : String :=
  RustStr.join (bytes.map upperPair) ':'

end Source

section Reading

/-- A pair of hexadecimal digits and its byte. -/
def Pair (part : String) (byte : UInt8) : Prop :=
  HexText.decode part = some [byte]

/-- A plus sign and a hexadecimal digit. -/
def Signed (part : String) (byte : UInt8) : Prop :=
  ∃ c v, part.toList = ['+', c] ∧ digitValue c = some v ∧ byte = UInt8.ofNat v

/-- What a well-formed fingerprint denotes. -/
def Denotes (text : String) (bytes : List UInt8) : Prop :=
  bytes.length = 32 ∧ (List.Forall₂ Pair (RustStr.split text ':') bytes ∨
    HexText.decode text = some bytes)

/-- What the loop takes for a byte. -/
def Segment (part : String) (byte : UInt8) : Prop :=
  part.utf8ByteSize = 2 ∧ fromStrRadix16 part.toList = some byte

variable {raw text part : String} {byte : UInt8} {bytes : List UInt8} {c : Char} {v : Nat}

theorem digit_bounds (hc : digitValue c = some v) : v < 16 ∧ c.utf8Size = 1 := by
  rw [Char.utf8Size_eq_one_iff, UInt32.le_iff_toNat_le]
  simp only [digitValue, Char.le_def, UInt32.le_iff_toNat_le] at hc
  simp only [Char.toNat, Char.reduceVal, UInt32.reduceToNat] at *
  split_ifs at hc
  all_goals
    cases hc
    omega

theorem utf8ByteSize_eq (text : String) : text.utf8ByteSize = String.utf8Len text.toList := by
  rw [← String.utf8ByteSize_ofList, String.ofList_toList]

theorem decode_digits {chars : List Char} (hdecode : decodeChars chars = some bytes) :
    (∀ c ∈ chars, (digitValue c).isSome) ∧ String.utf8Len chars = 2 * bytes.length := by
  fun_induction decodeChars chars generalizing bytes with
  | case1 =>
    cases hdecode
    simp
  | case3 high low rest h l found hrest hlow hhigh ih =>
    cases hdecode
    obtain ⟨hdigits, hsize⟩ := ih hrest
    have hone := (digit_bounds hhigh).2
    have htwo := (digit_bounds hlow).2
    refine ⟨by simpa [hhigh, hlow] using hdigits, ?_⟩
    simp only [String.utf8Len_cons, hsize, length_cons]
    omega
  | _ => cases hdecode

theorem not_mem_of_decode (hdecode : HexText.decode text = some bytes) : ':' ∉ text.toList :=
  fun hmem => absurd ((decode_digits hdecode).1 _ hmem) (by decide)

theorem segment_iff : Segment part byte ↔ Pair part byte ∨ Signed part byte := by
  unfold Segment Pair Signed HexText.decode
  rw [utf8ByteSize_eq]
  rcases part.toList with _ | ⟨a, _ | ⟨b, _ | ⟨c, rest⟩⟩⟩
  · simp [fromStrRadix16, decodeChars]
  · refine iff_of_false ?_ (by simp [decodeChars])
    rintro ⟨hsize, hread⟩
    cases ha : digitValue a with
    | none => simp [fromStrRadix16, ha] at hread
    | some v => simp [(digit_bounds ha).2] at hsize
  · by_cases hplus : a = '+'
    · subst hplus
      have hnone : digitValue '+' = none := rfl
      have hone : '+'.utf8Size = 1 := rfl
      cases hb : digitValue b with
      | none => simp [fromStrRadix16, decodeChars, hnone, hb]
      | some v =>
        have hv : v < 256 := by have := (digit_bounds hb).1; omega
        simp [fromStrRadix16, decodeChars, hnone, hone, hb, (digit_bounds hb).2, hv, eq_comm]
    · cases ha : digitValue a with
      | none => simp [fromStrRadix16, decodeChars, hplus, ha]
      | some h =>
        cases hb : digitValue b with
        | none => simp [fromStrRadix16, decodeChars, hplus, ha, hb]
        | some l =>
          have hv : h * 16 + l < 256 := by
            have := (digit_bounds ha).1
            have := (digit_bounds hb).1
            omega
          simp [fromStrRadix16, decodeChars, hplus, ha, hb, (digit_bounds ha).2,
            (digit_bounds hb).2, hv, Nat.mul_comm]
  · have hsizes := And.intro a.utf8Size_pos (And.intro b.utf8Size_pos c.utf8Size_pos)
    refine iff_of_false ?_ ?_
    · rintro ⟨hsize, -⟩
      simp only [String.utf8Len_cons] at hsize
      omega
    · rintro (hpair | ⟨d, v, hchars, -⟩)
      · have htwo := (decode_digits hpair).2
        simp only [String.utf8Len_cons, length_singleton] at htwo
        omega
      · simp at hchars

theorem parseSegments_eq_ok {index : Nat} {parts : List String} :
    parseSegments index parts = .ok bytes ↔ List.Forall₂ Segment parts bytes := by
  induction parts generalizing index bytes with
  | nil => simp [parseSegments, eq_comm]
  | cons part rest ih =>
    rw [parseSegments, forall₂_cons_left_iff]
    by_cases hsize : part.utf8ByteSize = 2
    · cases hread : fromStrRadix16 part.toList with
      | none => simp [Segment, hsize, hread]
      | some byte =>
        have hrest := fun found => @ih found (index + 1)
        cases hparsed : parseSegments (index + 1) rest with
        | error e => simp [Segment, hsize, hread, ← hrest, hparsed, Except.map]
        | ok found => simp [Segment, hsize, hread, ← hrest, hparsed, Except.map, eq_comm]
    · simp [Segment, hsize]

/-- The parser takes segments for pairs, and is exact otherwise. -/
theorem parse_eq_ok : parseSha256Fingerprint raw = .ok bytes ↔ bytes.length = 32 ∧
    (List.Forall₂ Segment (RustStr.split (RustStr.trim raw) ':') bytes ∨
      HexText.decode (RustStr.trim raw) = some bytes) := by
  unfold parseSha256Fingerprint
  generalize RustStr.trim raw = text
  dsimp only
  by_cases hcolon : ':' ∈ text.toList
  · have hnonempty : ¬text.isEmpty := by
      rw [String.isEmpty_iff]
      rintro rfl
      simp at hcolon
    rw [if_neg hnonempty, if_pos hcolon]
    split
    next hcount =>
      refine iff_of_false nofun ?_
      rintro ⟨hlength, hsegments | hdecode⟩
      · exact hcount (hsegments.length_eq.trans hlength)
      · exact not_mem_of_decode hdecode hcolon
    next hcount =>
      rw [parseSegments_eq_ok]
      refine ⟨fun hsegments => ⟨hsegments.length_eq.symm.trans (not_not.mp hcount), .inl hsegments⟩,
        fun hread => hread.2.resolve_right fun hdecode => not_mem_of_decode hdecode hcolon⟩
  · have hone : ¬(bytes.length = 32 ∧ List.Forall₂ Segment [text] bytes) := by
      rintro ⟨hlength, hsegments⟩
      simp [← hsegments.length_eq] at hlength
    rw [split_of_not_mem hcolon, and_or_left, or_iff_right hone, if_neg hcolon]
    cases hdecode : HexText.decode text with
    | none => split_ifs <;> simp
    | some found =>
      have hsize : text.utf8ByteSize = 2 * found.length :=
        (utf8ByteSize_eq text).trans (decode_digits hdecode).2
      rw [String.isEmpty, hsize]
      split_ifs <;> grind

end Reading

section Exactness

variable {bytes : List UInt8}

/-- If the parts are 32 pairs or signed digits, none is a signed digit. -/
def SignFree (parts : List String) : Prop :=
  parts.length = 32 → (∀ part ∈ parts, ∃ byte, Pair part byte ∨ Signed part byte) →
    ∀ part ∈ parts, ∀ byte, ¬Signed part byte

theorem pair_upperPair (byte : UInt8) : Pair (upperPair byte) byte := by
  have hdigit : ∀ v < 16, digitValue (digit v).toUpper = some v := by decide
  have hbyte := byte.toNat_lt
  have hvalue : byte.toNat / 16 * 16 + byte.toNat % 16 = byte.toNat := by omega
  simp only [Pair, upperPair, HexText.decode, String.toList_ofList, decodeChars,
    hdigit _ (by omega : byte.toNat / 16 < 16), hdigit _ (Nat.mod_lt byte.toNat (by decide)), hvalue]
  simp

theorem trim_format (bytes : List UInt8) :
    RustStr.trim (formatColonFingerprint bytes) = formatColonFingerprint bytes := by
  have hspace : ∀ v < 16, isWhitespace (digit v).toUpper = false := by decide
  have hplain : ∀ c ∈ (formatColonFingerprint bytes).toList, isWhitespace c = false := by
    intro c hc
    rw [formatColonFingerprint, RustStr.join, String.toList_intercalate] at hc
    rcases mem_of_mem_intercalate hc with hmark | ⟨part, hpart, hin⟩
    · rw [String.toList_singleton, mem_singleton] at hmark
      exact hmark ▸ by decide
    · simp only [map_map, mem_map, Function.comp_apply] at hpart
      obtain ⟨byte, -, rfl⟩ := hpart
      have hbyte := byte.toNat_lt
      simp only [upperPair, String.toList_ofList, mem_cons, not_mem_nil, or_false] at hin
      rcases hin with rfl | rfl <;> exact hspace _ (by omega)
  have hdrop : ∀ text : List Char, (∀ c ∈ text, isWhitespace c = false) →
      text.dropWhile isWhitespace = text := by
    intro text htext
    cases text <;> simp_all
  rw [RustStr.trim, trimList, hdrop _ hplain, hdrop _ (by simpa using hplain), reverse_reverse,
    String.ofList_toList]

theorem exists_of_forall₂ {R : String → UInt8 → Prop} {parts : List String}
    (hread : List.Forall₂ R parts bytes) : ∀ part ∈ parts, ∃ byte, R part byte :=
  ((forall₂_and_left _ _).mp (hread.imp fun _ byte hbyte => ⟨⟨byte, hbyte⟩, hbyte⟩)).1

/-- A text is accepted exactly if it is well-formed, with the bytes that it denotes, exactly
where no segment has a sign; and the bytes that were formatted are parsed again. -/
theorem fingerprint_exact_iff (raw : String) :
    ((∀ bytes, parseSha256Fingerprint raw = .ok bytes ↔ Denotes (RustStr.trim raw) bytes) ↔
      SignFree (RustStr.split (RustStr.trim raw) ':')) ∧
    ∀ bytes : List UInt8, bytes.length = 32 →
      parseSha256Fingerprint (formatColonFingerprint bytes) = .ok bytes := by
  refine ⟨⟨fun hexact hcount hread part hpart byte hsigned => ?_, fun hfree bytes => ?_⟩, ?_⟩
  · have hsegments : List.Forall₂ Segment (RustStr.split (RustStr.trim raw) ':')
        ((RustStr.split (RustStr.trim raw) ':').map fun part =>
          (fromStrRadix16 part.toList).getD 0) := by
      rw [forall₂_map_right_iff, forall₂_same]
      intro part hpart
      obtain ⟨byte, hbyte⟩ := hread part hpart
      have hsegment := segment_iff.mpr hbyte
      exact ⟨hsegment.1, by simp [hsegment.2]⟩
    obtain ⟨-, hpairs | hdecode⟩ := (hexact _).mp
      (parse_eq_ok.mpr ⟨by simpa using hcount, .inl hsegments⟩)
    · obtain ⟨found, hpair⟩ := exists_of_forall₂ hpairs part hpart
      obtain ⟨c, v, hchars, -⟩ := hsigned
      have hdigit := (decode_digits hpair).1 '+' (by simp [hchars])
      exact absurd hdigit (by decide)
    · rw [split_of_not_mem (not_mem_of_decode hdecode)] at hcount
      cases hcount
  · rw [parse_eq_ok]
    refine and_congr_right fun hlength => or_congr_left ⟨fun hsegments => ?_, fun hpairs =>
      hpairs.imp fun _ _ hpair => segment_iff.mpr (.inl hpair)⟩
    have hunsigned := hfree (hsegments.length_eq.trans hlength) fun part hpart =>
      (exists_of_forall₂ hsegments part hpart).imp fun _ => segment_iff.mp
    exact ((forall₂_and_left _ _).mpr ⟨hunsigned, hsegments⟩).imp fun part byte hpart =>
      (segment_iff.mp hpart.2).resolve_right (hpart.1 byte)
  · intro bytes hlength
    rw [parse_eq_ok, trim_format, formatColonFingerprint, split_join]
    · rw [forall₂_map_left_iff, forall₂_same]
      exact ⟨hlength, .inl fun byte _ => segment_iff.mpr (.inl (pair_upperPair byte))⟩
    · rw [forall_mem_map]
      exact fun byte _ => not_mem_of_decode (pair_upperPair byte)
    · rintro hnone
      simp_all

/-- A fingerprint whose first byte is a sign and a digit. -/
def signedText : String := RustStr.join ("+A" :: List.replicate 31 "00") ':'

/-- It is accepted, though it denotes nothing. -/
theorem signed_fingerprint_accepted :
    parseSha256Fingerprint signedText = .ok (10 :: List.replicate 31 0) ∧
      ∀ bytes, ¬Denotes (RustStr.trim signedText) bytes := by
  have hparts : RustStr.split (RustStr.trim signedText) ':' = "+A" :: List.replicate 31 "00" := by
    decide +kernel
  have hdecode : HexText.decode (RustStr.trim signedText) = none := by decide +kernel
  refine ⟨by decide +kernel, ?_⟩
  rintro bytes ⟨-, hpairs | hdigits⟩
  · rw [hparts] at hpairs
    obtain ⟨byte, hpair⟩ := exists_of_forall₂ hpairs "+A" mem_cons_self
    cases hpair
  · cases hdecode.symm.trans hdigits

end Exactness

end Proxxx.TlsPin
