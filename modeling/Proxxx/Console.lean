/-
The console of a guest: the frames of its terminal, and the address it connects to.
-/
import Proxxx.RustStr
import Mathlib

namespace Proxxx.Console

open List RustStr

section Frames

/-- What decoding gives: bytes, nothing, or a slice that is out of range. -/
inductive Decoded where
  | bytes (body : List UInt8)
  | ignored
  | panics
deriving Repr, DecidableEq

/-- The text of a length.  A byte that is not ASCII is no digit in either reading. -/
def asText (bytes : List UInt8) : String :=
  String.ofList (bytes.map fun byte => Char.ofNat byte.toNat)

/-- The bytes behind `0:`, up to the next colon and behind it, with the length that
they stand for. -/
def frameHeader (payload : List UInt8) : Option (List UInt8 × Nat) := do
  let (header, _) ← splitOnceList [58] (payload.drop 2)
  let len ← parseUnsigned (2 ^ 64) (asText header)
  return (header, len)

/-- Sums wrap at 64 bits. -/
def decodeDataFrame (payload : List UInt8) : Decoded :=
  if payload.take 2 ≠ [48, 58] then .bytes payload
  else
    match frameHeader payload with
    | none => .ignored
    | some (header, len) =>
      let start := 2 + header.length + 1
      let stop := (start + len) % 2 ^ 64
      if payload.length < stop then .ignored
      else if stop < start then .panics
      else .bytes ((payload.take stop).drop start)

def lengthBytes (len : Nat) : List UInt8 :=
  (toString len).toList.map fun c => UInt8.ofNat c.toNat

/-- The frame of an input: `0:`, the length, a colon, the bytes. -/
def sendInput (bytes : List UInt8) : List UInt8 :=
  [48, 58] ++ (lengthBytes bytes.length ++ 58 :: bytes)

/-- A payload in the memory of a 64-bit machine. -/
abbrev Payload := { payload : List UInt8 // payload.length < 2 ^ 64 }

/-- The length and the place of the body do not add up to a machine word. -/
def Overflows (payload : List UInt8) : Prop :=
  payload.take 2 = [48, 58] ∧ ∃ header len, frameHeader payload = some (header, len) ∧
    2 ^ 64 ≤ 2 + header.length + 1 + len

theorem frameHeader_bounds {payload header : List UInt8} {len : Nat}
    (hstart : payload.take 2 = [48, 58])
    (hheader : frameHeader payload = some (header, len)) :
    2 + header.length + 1 ≤ payload.length ∧ len < 2 ^ 64 := by
  obtain ⟨⟨left, right⟩, hsplit, hrest⟩ := Option.bind_eq_some_iff.mp hheader
  obtain ⟨value, hvalue, hpair⟩ := Option.bind_eq_some_iff.mp hrest
  cases hpair
  have hlength := congrArg List.length (append_of_splitOnceList hsplit)
  have htwo := congrArg List.length hstart
  simp only [length_drop, length_append, length_take, length_cons, length_nil] at hlength htwo
  exact ⟨by omega, parseUnsigned_lt hvalue⟩

theorem digit_byte {c : Char} (hdigit : c.isDigit) :
    UInt8.ofNat c.toNat ≠ 58 ∧ Char.ofNat (UInt8.ofNat c.toNat).toNat = c := by
  have hcode : 48 ≤ c.toNat ∧ c.toNat ≤ 57 := by
    simpa [Char.isDigit, UInt32.le_iff_toNat_le] using hdigit
  have hbyte : (UInt8.ofNat c.toNat).toNat = c.toNat := by
    simp only [UInt8.toNat_ofNat']
    omega
  refine ⟨fun hcolon => ?_, by rw [hbyte, Char.ofNat_toNat]⟩
  rw [hcolon] at hbyte
  have hvalue : (58 : UInt8).toNat = 58 := rfl
  omega

theorem frameHeader_sendInput {bytes : List UInt8} (hsize : bytes.length < 2 ^ 64) :
    frameHeader (sendInput bytes) = some (lengthBytes bytes.length, bytes.length) := by
  have hdigits {c : Char} (hc : c ∈ (toString bytes.length).toList) :=
    digit_byte (isDigit_of_mem_toString hc)
  have hfree : 58 ∉ lengthBytes bytes.length := by
    intro hcolon
    obtain ⟨c, hc, hbyte⟩ := mem_map.mp hcolon
    exact (hdigits hc).1 hbyte
  have htext : asText (lengthBytes bytes.length) = toString bytes.length := by
    rw [asText, lengthBytes, map_map]
    have hsame := (map_congr_left fun c hc => (hdigits hc).2).trans (map_id' _)
    exact (congrArg String.ofList hsame).trans String.ofList_toList
  have hdrop : (sendInput bytes).drop 2 = lengthBytes bytes.length ++ 58 :: bytes := rfl
  rw [frameHeader, hdrop, splitOnceList_singleton hfree]
  simp only [Option.bind_eq_bind, Option.bind_some, htext, parseUnsigned_toString hsize]
  rfl

/-- A frame is decoded exactly if its length does not overflow, and the frame of an
input gives back the input. -/
theorem frame_decoded_iff (payload : Payload) :
    (decodeDataFrame payload ≠ .panics ↔ ¬ Overflows payload) ∧
      ∀ bytes, sendInput bytes = payload → decodeDataFrame payload = .bytes bytes := by
  obtain ⟨payload, hsize⟩ := payload
  constructor
  · by_cases hstart : payload.take 2 = [48, 58]
    · cases hheader : frameHeader payload with
      | none => simp [decodeDataFrame, Overflows, hstart, hheader]
      | some parts =>
        obtain ⟨header, len⟩ := parts
        obtain ⟨hplace, hlen⟩ := frameHeader_bounds hstart hheader
        have hpanics : decodeDataFrame payload = .panics ↔
            2 ^ 64 ≤ 2 + header.length + 1 + len := by
          simp only [decodeDataFrame, hstart, hheader, ne_eq, not_true_eq_false, if_false]
          split_ifs <;> simp <;> omega
        simp [Overflows, hstart, hheader, hpanics]
    · simp [decodeDataFrame, Overflows, hstart]
  · rintro bytes rfl
    have hlength : (sendInput bytes).length =
        2 + (lengthBytes bytes.length).length + 1 + bytes.length := by
      simp only [sendInput, length_append, length_cons, length_nil]
      omega
    have hstop := Nat.mod_eq_of_lt hsize
    have hheader := @frameHeader_sendInput bytes (by omega)
    have hstart : (sendInput bytes).take 2 = [48, 58] := rfl
    rw [hlength] at hstop
    simp only [decodeDataFrame, hstart, hheader, hstop, ne_eq, not_true_eq_false, if_false]
    have hsplit : sendInput bytes = [48, 58] ++ lengthBytes bytes.length ++ [58] ++ bytes := by
      simp [sendInput]
    rw [if_neg (by omega), if_neg (by omega), ← hlength, take_length, hsplit,
      drop_left' (by simp; omega)]

theorem frame_panics : decodeDataFrame ("0:18446744073709551615:".toList.map
    fun c => UInt8.ofNat c.toNat) = .panics := by
  decide +kernel

end Frames

section Addresses

/-- Neither loopback nor link-local nor `0/8`. -/
def isRoutable : List Nat → Bool
  | [a, b, _, _] => a != 127 && !(a == 169 && b == 254) && a != 0
  | _ => false

/-- Parts that are no octets are left out. -/
def isRoutableIpv4 (text : String) : Bool :=
  isRoutable ((split text '.').filterMap (parseUnsigned 256))

structure GuestAgentIpAddress where
  ipAddressType : String
  ipAddress : String

structure GuestAgentNetworkInterface where
  ipAddresses : List GuestAgentIpAddress

structure LxcInterface where
  inet : String

/-- The addresses of the guest agent, interface by interface. -/
def agentTexts (interfaces : List GuestAgentNetworkInterface) : List String :=
  ((interfaces.flatMap (·.ipAddresses)).filter (·.ipAddressType == "ipv4")).map (·.ipAddress)

/-- The addresses of a container, without the length of the network. -/
def lxcTexts (interfaces : List LxcInterface) : List String :=
  (interfaces.filter (·.inet != "")).map fun iface =>
    ((splitOnce iface.inet "/").map (·.1)).getD iface.inet

def pickFirstRoutableIpv4Qemu (interfaces : List GuestAgentNetworkInterface) : Option String :=
  (agentTexts interfaces).find? isRoutableIpv4

def pickFirstRoutableIpv4Lxc (interfaces : List LxcInterface) : Option String :=
  (lxcTexts interfaces).find? isRoutableIpv4

/-- A number below 256, of digits only. -/
def octet (part : String) : Option Nat :=
  if part.toList.all Char.isDigit then parseUnsigned 256 part else none

/-- Four octets between dots and nothing else, of an address that can be reached. -/
def isRoutableQuad (text : String) : Bool :=
  ((split text '.').mapM octet).any isRoutable

theorem filterMap_of_mapM {parts : List String} {octets : List Nat}
    (hoctets : parts.mapM octet = some octets) :
    parts.filterMap (parseUnsigned 256) = octets := by
  induction parts generalizing octets with
  | nil => simpa using hoctets
  | cons part rest ih =>
    rw [mapM_cons] at hoctets
    obtain ⟨value, hvalue, hmore⟩ := Option.bind_eq_some_iff.mp hoctets
    obtain ⟨others, hothers, hcons⟩ := Option.bind_eq_some_iff.mp hmore
    cases hcons
    have hparse : parseUnsigned 256 part = some value := (Option.ite_none_right_eq_some.mp hvalue).2
    rw [filterMap_cons_some hparse, ih hothers]

theorem isRoutableIpv4_of_quad {text : String} (hquad : isRoutableQuad text) :
    isRoutableIpv4 text := by
  obtain ⟨octets, hoctets, hroutable⟩ := (Option.any_eq_true _ _).mp hquad
  rwa [isRoutableIpv4, filterMap_of_mapM hoctets]

theorem find?_eq_iff (texts : List String) :
    texts.find? isRoutableIpv4 = texts.find? isRoutableQuad ↔
      ∀ text ∈ texts.takeWhile (!isRoutableQuad ·), isRoutableIpv4 text = false := by
  induction texts with
  | nil => simp
  | cons text rest ih =>
    cases hquad : isRoutableQuad text with
    | true => simp [hquad, isRoutableIpv4_of_quad hquad]
    | false =>
      cases hpicked : isRoutableIpv4 text with
      | true =>
        have hother : rest.find? isRoutableQuad ≠ some text := fun hfound => by
          rw [find?_some hfound] at hquad
          cases hquad
        simpa [hquad, hpicked] using hother.symm
      | false => simpa [hquad, hpicked] using ih

/-- The address that is picked is the first dotted quad that can be reached, exactly
if no text in front of it is taken for one. -/
theorem address_picked_iff (agents : List GuestAgentNetworkInterface)
    (containers : List LxcInterface) :
    (pickFirstRoutableIpv4Qemu agents = (agentTexts agents).find? isRoutableQuad ↔
      ∀ text ∈ (agentTexts agents).takeWhile (!isRoutableQuad ·), isRoutableIpv4 text = false) ∧
    (pickFirstRoutableIpv4Lxc containers = (lxcTexts containers).find? isRoutableQuad ↔
      ∀ text ∈ (lxcTexts containers).takeWhile (!isRoutableQuad ·), isRoutableIpv4 text = false) :=
  ⟨find?_eq_iff _, find?_eq_iff _⟩

/-- A host name is picked. -/
theorem host_name_picked : pickFirstRoutableIpv4Qemu [⟨[⟨"ipv4", "10.0.0.42.evil.example"⟩]⟩] =
    some "10.0.0.42.evil.example" ∧ isRoutableQuad "10.0.0.42.evil.example" = false := by
  decide +kernel

end Addresses

end Proxxx.Console
