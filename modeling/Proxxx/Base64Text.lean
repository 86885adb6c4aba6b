/-
Base64 text of byte strings, with padding on the way out; on the way in padding
and white space are passed over and a single left-over character is ignored.
-/
import Mathlib.Data.List.Basic

namespace Base64Text

open List

def alphabet : List Char :=
  "ABCDEFGHIJKLMNOPQRSTUVWXYZabcdefghijklmnopqrstuvwxyz0123456789+/".toList

/-- The character of a value below sixty-four. -/
def letter (value : UInt8) : Char :=
  alphabet.getD value.toNat '='

def encodeChars : List UInt8 → List Char
  | b0 :: b1 :: b2 :: rest =>
    letter (b0 >>> 2) ::
    letter (((b0 &&& 0x03) <<< 4) ||| (b1 >>> 4)) ::
    letter (((b1 &&& 0x0f) <<< 2) ||| (b2 >>> 6)) ::
    letter (b2 &&& 0x3f) :: encodeChars rest
  | [b0, b1] =>
    [letter (b0 >>> 2), letter (((b0 &&& 0x03) <<< 4) ||| (b1 >>> 4)),
      letter ((b1 &&& 0x0f) <<< 2), '=']
  | [b0] => [letter (b0 >>> 2), letter ((b0 &&& 0x03) <<< 4), '=', '=']
  | [] => []

/-- Base64 text of a byte string. -/
def encode (bytes : List UInt8) : String :=
  String.ofList (encodeChars bytes)

/-- The value of a character of the alphabet, as a byte. -/
def value (c : UInt8) : Option UInt8 :=
  if 0x41 ≤ c ∧ c ≤ 0x5a then some (c - 0x41)
  else if 0x61 ≤ c ∧ c ≤ 0x7a then some (c - 0x61 + 26)
  else if 0x30 ≤ c ∧ c ≤ 0x39 then some (c - 0x30 + 52)
  else if c = 0x2b then some 62
  else if c = 0x2f then some 63
  else none

def decodeBytes : List UInt8 → Option (List UInt8)
  | c0 :: c1 :: c2 :: c3 :: rest => do
      let v0 ← value c0
      let v1 ← value c1
      let v2 ← value c2
      let v3 ← value c3
      let out ← decodeBytes rest
      return ((v0 <<< 2) ||| (v1 >>> 4)) :: ((v1 <<< 4) ||| (v2 >>> 2)) ::
        ((v2 <<< 6) ||| v3) :: out
  | [c0, c1, c2] => do
      let v0 ← value c0
      let v1 ← value c1
      let v2 ← value c2
      return [(v0 <<< 2) ||| (v1 >>> 4), (v1 <<< 4) ||| (v2 >>> 2)]
  | [c0, c1] => do
      let v0 ← value c0
      let v1 ← value c1
      return [(v0 <<< 2) ||| (v1 >>> 4)]
  | _ => some []

/-- What is neither padding nor ASCII white space. -/
def significant (byte : UInt8) : Bool :=
  byte ≠ 0x3d && !(byte = 0x20 || byte = 0x09 || byte = 0x0a || byte = 0x0c || byte = 0x0d)

/-- The significant bytes of a text. -/
def codes (chars : List Char) : List UInt8 :=
  (chars.flatMap String.utf8EncodeChar).filter significant

/-- Bytes of a base64 text. -/
def decode (text : String) : Option (List UInt8) :=
  decodeBytes (codes text.toList)

section Letters

/-- A property of bytes is checked on the numbers below 256. -/
theorem forall_byte {P : UInt8 → Prop} (hall : ∀ i : Fin 256, P (.ofNat i))
    (byte : UInt8) : P byte := by
  have hbyte := hall ⟨byte.toNat, byte.toNat_lt⟩
  rwa [UInt8.ofNat_toNat] at hbyte

/-- The byte a letter is written as. -/
def code (v : UInt8) : UInt8 :=
  .ofNat (letter v).toNat

theorem letter_facts {v : UInt8} (hv : v < 64) :
    codes [letter v] = [code v] ∧ value (code v) = some v :=
  forall_byte (P := fun v => v < 64 → codes [letter v] = [code v] ∧ value (code v) = some v)
    (by decide +kernel) v hv

theorem value_code {v : UInt8} (hv : v < 64) : value (code v) = some v := (letter_facts hv).2

theorem codes_letter_cons {v : UInt8} (hv : v < 64) (rest : List Char) :
    codes (letter v :: rest) = code v :: codes rest := by
  rw [← singleton_append, codes, flatMap_append, filter_append]
  exact congrArg (· ++ codes rest) (letter_facts hv).1

theorem codes_padding (rest : List Char) : codes ('=' :: rest) = codes rest := by
  rfl

end Letters

section Sextets

/-- The four values three bytes are cut into are below sixty-four. -/
theorem or_lt {v w : UInt8} (hv : v < 64) (hw : w < 64) : v ||| w < 64 := by
  rw [UInt8.lt_iff_toNat_lt] at hv hw ⊢
  rw [UInt8.toNat_or]
  exact Nat.or_lt_two_pow (n := 6) hv hw

/-- What a byte gives to a value is below sixty-four. -/
theorem cut_lt (b : UInt8) : b >>> 2 < 64 ∧ (b &&& 0x03) <<< 4 < 64 ∧ b >>> 4 < 64 ∧
    (b &&& 0x0f) <<< 2 < 64 ∧ b >>> 6 < 64 ∧ b &&& 0x3f < 64 := by
  revert b
  exact forall_byte (by decide +kernel)

theorem first_lt (b : UInt8) : b >>> 2 < 64 := (cut_lt b).1

theorem second_lt (b0 b1 : UInt8) : ((b0 &&& 0x03) <<< 4) ||| (b1 >>> 4) < 64 :=
  or_lt (cut_lt b0).2.1 (cut_lt b1).2.2.1

theorem third_lt (b1 b2 : UInt8) : ((b1 &&& 0x0f) <<< 2) ||| (b2 >>> 6) < 64 :=
  or_lt (cut_lt b1).2.2.2.1 (cut_lt b2).2.2.2.2.1

theorem fourth_lt (b : UInt8) : b &&& 0x3f < 64 := (cut_lt b).2.2.2.2.2

/-- The low bits a value takes from the next byte do not disturb the byte it
completes, and the high bits it has from the last one are shifted out. -/
theorem shifted_out (b : UInt8) :
    b >>> 4 >>> 4 = 0 ∧ (b &&& 0x03) <<< 4 <<< 4 = 0 ∧ b >>> 6 >>> 2 = 0 ∧
      (b &&& 0x0f) <<< 2 <<< 6 = 0 := by
  revert b
  exact forall_byte (by decide +kernel)

/-- The two parts of a byte make it up again. -/
theorem rejoined (b : UInt8) : ((b >>> 2) <<< 2) ||| (((b &&& 0x03) <<< 4) >>> 4) = b ∧
    ((b >>> 4) <<< 4) ||| (((b &&& 0x0f) <<< 2) >>> 2) = b ∧
    ((b >>> 6) <<< 6) ||| (b &&& 0x3f) = b := by
  revert b
  exact forall_byte (by decide +kernel)

theorem first_byte (b0 b1 : UInt8) : ((b0 >>> 2) <<< 2) |||
    ((((b0 &&& 0x03) <<< 4) ||| (b1 >>> 4)) >>> 4) = b0 := by
  rw [UInt8.shiftRight_or, (shifted_out b1).1, UInt8.or_zero]
  exact (rejoined b0).1

theorem second_byte (b0 b1 b2 : UInt8) : ((((b0 &&& 0x03) <<< 4) ||| (b1 >>> 4)) <<< 4) |||
    ((((b1 &&& 0x0f) <<< 2) ||| (b2 >>> 6)) >>> 2) = b1 := by
  rw [UInt8.shiftLeft_or, (shifted_out b0).2.1, UInt8.zero_or,
    UInt8.shiftRight_or, (shifted_out b2).2.2.1, UInt8.or_zero]
  exact (rejoined b1).2.1

theorem third_byte (b1 b2 : UInt8) :
    ((((b1 &&& 0x0f) <<< 2) ||| (b2 >>> 6)) <<< 6) ||| (b2 &&& 0x3f) = b2 := by
  rw [UInt8.shiftLeft_or, (shifted_out b1).2.2.2, UInt8.zero_or]
  exact (rejoined b2).2.2

/-- A last value is cut from zeros. -/
theorem second_padded (b : UInt8) :
    (b &&& 0x03) <<< 4 = ((b &&& 0x03) <<< 4) ||| ((0 : UInt8) >>> 4) := by
  rw [show (0 : UInt8) >>> 4 = 0 from rfl, UInt8.or_zero]

theorem third_padded (b : UInt8) :
    (b &&& 0x0f) <<< 2 = ((b &&& 0x0f) <<< 2) ||| ((0 : UInt8) >>> 6) := by
  rw [show (0 : UInt8) >>> 6 = 0 from rfl, UInt8.or_zero]

end Sextets

section RoundTrip

theorem decodeBytes_codes (bytes : List UInt8) :
    decodeBytes (codes (encodeChars bytes)) = some bytes := by
  induction bytes using encodeChars.induct with
  | case1 b0 b1 b2 rest ih =>
    rw [encodeChars, codes_letter_cons (first_lt b0),
      codes_letter_cons (second_lt b0 b1), codes_letter_cons (third_lt b1 b2),
      codes_letter_cons (fourth_lt b2), decodeBytes, value_code (first_lt b0),
      value_code (second_lt b0 b1), value_code (third_lt b1 b2),
      value_code (fourth_lt b2), ih]
    simp only [Option.bind_eq_bind, Option.bind_some, first_byte, second_byte, third_byte]
    rfl
  | case2 b0 b1 =>
    rw [encodeChars, third_padded, codes_letter_cons (first_lt b0),
      codes_letter_cons (second_lt b0 b1), codes_letter_cons (third_lt b1 0),
      codes_padding]
    simp only [codes, flatMap_nil, filter_nil, decodeBytes,
      value_code (first_lt b0), value_code (second_lt b0 b1),
      value_code (third_lt b1 0), Option.bind_eq_bind, Option.bind_some,
      first_byte, second_byte]
    rfl
  | case3 b0 =>
    rw [encodeChars, second_padded, codes_letter_cons (first_lt b0),
      codes_letter_cons (second_lt b0 0), codes_padding, codes_padding]
    simp only [codes, flatMap_nil, filter_nil, decodeBytes,
      value_code (first_lt b0), value_code (second_lt b0 0),
      Option.bind_eq_bind, Option.bind_some, first_byte]
    rfl
  | case4 => rfl

theorem decode_encode (bytes : List UInt8) : decode (encode bytes) = some bytes := by
  rw [decode, encode, String.toList_ofList]
  exact decodeBytes_codes bytes

theorem mem_encode {bytes : List UInt8} {c : Char} (hc : c ∈ (encode bytes).toList) :
    (∃ v < 64, c = letter v) ∨ c = '=' := by
  rw [encode, String.toList_ofList] at hc
  induction bytes using encodeChars.induct with
  | case1 b0 b1 b2 rest ih =>
    simp only [encodeChars, mem_cons] at hc
    rcases hc with rfl | rfl | rfl | rfl | hc
    · exact .inl ⟨_, first_lt b0, rfl⟩
    · exact .inl ⟨_, second_lt b0 b1, rfl⟩
    · exact .inl ⟨_, third_lt b1 b2, rfl⟩
    · exact .inl ⟨_, fourth_lt b2, rfl⟩
    · exact ih hc
  | case2 b0 b1 =>
    rw [encodeChars, third_padded] at hc
    simp only [mem_cons, not_mem_nil, or_false] at hc
    rcases hc with rfl | rfl | rfl | rfl
    · exact .inl ⟨_, first_lt b0, rfl⟩
    · exact .inl ⟨_, second_lt b0 b1, rfl⟩
    · exact .inl ⟨_, third_lt b1 0, rfl⟩
    · exact .inr rfl
  | case3 b0 =>
    rw [encodeChars, second_padded] at hc
    simp only [mem_cons, not_mem_nil, or_false] at hc
    rcases hc with rfl | rfl | rfl | rfl
    · exact .inl ⟨_, first_lt b0, rfl⟩
    · exact .inl ⟨_, second_lt b0 0, rfl⟩
    · exact .inr rfl
    · exact .inr rfl
  | case4 => cases hc

theorem encode_ne_empty {bytes : List UInt8} (hbytes : bytes ≠ []) : encode bytes ≠ "" := by
  intro hempty
  apply hbytes
  have hdecoded := decode_encode bytes
  rw [hempty] at hdecoded
  exact (Option.some.inj hdecoded).symm

end RoundTrip

end Base64Text
