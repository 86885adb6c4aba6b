/-
Hexadecimal text of byte strings: lowercase on the way out, either case on the
way in.
-/
import Mathlib.Data.List.Basic

namespace HexText

/-- The lowercase digit of a value below sixteen. -/
def digit (value : Nat) : Char :=
  if value < 10 then Char.ofNat (48 + value) else Char.ofNat (87 + value)

/-- The value of a digit of either case. -/
def digitValue (c : Char) : Option Nat :=
  if '0' ≤ c ∧ c ≤ '9' then some (c.toNat - 48)
  else if 'a' ≤ c ∧ c ≤ 'f' then some (c.toNat - 87)
  else if 'A' ≤ c ∧ c ≤ 'F' then some (c.toNat - 55)
  else none

/-- Two lowercase digits for every byte. -/
def encodeChars : List UInt8 → List Char
  | [] => []
  | byte :: rest =>
    digit (byte.toNat / 16) :: digit (byte.toNat % 16) :: encodeChars rest

/-- Read the digits back in pairs; an odd digit or a foreign character is an
error. -/
def decodeChars : List Char → Option (List UInt8)
  | [] => some []
  | [_] => none
  | high :: low :: rest =>
    match digitValue high, digitValue low, decodeChars rest with
    | some h, some l, some bytes => some (UInt8.ofNat (h * 16 + l) :: bytes)
    | _, _, _ => none

/-- Hexadecimal text of a byte string. -/
def encode (bytes : List UInt8) : String :=
  String.ofList (encodeChars bytes)

/-- Bytes of a hexadecimal text of either case. -/
def decode (text : String) : Option (List UInt8) :=
  decodeChars text.toList

theorem digitValue_digit {value : Nat} (hvalue : value < 16) :
    digitValue (digit value) = some value := by
  have hall : ∀ value : Fin 16, digitValue (digit value) = some value.val := by decide
  exact hall ⟨value, hvalue⟩

theorem digit_mem {value : Nat} (hvalue : value < 16) :
    digit value ∈ "0123456789abcdef".toList := by
  have hall : ∀ value : Fin 16, digit value ∈ "0123456789abcdef".toList := by decide
  exact hall ⟨value, hvalue⟩

theorem decodeChars_encodeChars (bytes : List UInt8) :
    decodeChars (encodeChars bytes) = some bytes := by
  induction bytes with
  | nil => rfl
  | cons byte rest ih =>
    have hbyte := byte.toNat_lt
    simp only [encodeChars, decodeChars, ih, digitValue_digit (show byte.toNat / 16 < 16 by omega),
      digitValue_digit (Nat.mod_lt byte.toNat (by decide))]
    rw [show byte.toNat / 16 * 16 + byte.toNat % 16 = byte.toNat by omega]
    simp

theorem decode_encode (bytes : List UInt8) : decode (encode bytes) = some bytes := by
  simp [decode, encode, decodeChars_encodeChars]

theorem encode_injective : Function.Injective encode := by
  intro left right heq
  have hdecoded := congrArg decode heq
  simpa [decode_encode] using hdecoded

theorem mem_encode {bytes : List UInt8} {c : Char}
    (hc : c ∈ (encode bytes).toList) : c ∈ "0123456789abcdef".toList := by
  simp only [encode, String.toList_ofList] at hc
  induction bytes with
  | nil => simp [encodeChars] at hc
  | cons byte rest ih =>
    have hbyte := byte.toNat_lt
    simp only [encodeChars, List.mem_cons] at hc
    rcases hc with rfl | rfl | hc
    · exact digit_mem (by omega)
    · exact digit_mem (by omega)
    · exact ih hc

theorem encode_ne_empty {bytes : List UInt8} (hbytes : bytes ≠ []) : encode bytes ≠ "" := by
  intro hempty
  apply hbytes
  have hdecoded := decode_encode bytes
  rw [hempty] at hdecoded
  exact (Option.some.inj hdecoded).symm

theorem utf8Size_digit {value : Nat} (hvalue : value < 16) : (digit value).utf8Size = 1 := by
  have hall : ∀ value : Fin 16, (digit value).utf8Size = 1 := by decide
  exact hall ⟨value, hvalue⟩

theorem utf8ByteSize_encode (bytes : List UInt8) :
    (encode bytes).utf8ByteSize = 2 * bytes.length := by
  unfold encode
  induction bytes with
  | nil => rfl
  | cons byte rest ih =>
    have hbyte := byte.toNat_lt
    rw [encodeChars, String.ofList_cons, String.ofList_cons,
      String.utf8ByteSize_append, String.utf8ByteSize_append,
      String.utf8ByteSize_singleton, String.utf8ByteSize_singleton,
      utf8Size_digit (by omega), utf8Size_digit (by omega), ih,
      List.length_cons]
    omega

end HexText
