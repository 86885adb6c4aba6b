/-
Telegram callbacks of the approval keyboard: how their data is signed, and the
checks a callback passes before it may act on a request.
-/
import Proxxx.AuditLog
import Proxxx.RustStr

namespace Proxxx

/-- Hexadecimal text of the first eight bytes of the payload's tag. -/
def hmacSign (mac : Mac) (key : Key) (payload : String) : String :=
  HexText.encode ((mac.tag key payload).take 8)

def hmacVerify (mac : Mac) (key : Key) (payload tagHex : String) : Bool :=
  if tagHex.utf8ByteSize ≠ 16 then false
  else
    match HexText.decode tagHex with
    | none => false
    | some expected =>
      expected.length == 8 && expected == (mac.tag key payload).take 8

/-- The fields of a gateway that decide about callbacks. -/
structure TelegramGateway where
  chatId : String
  hmacKey : Key
  allowedApprovers : List Int
deriving Repr, DecidableEq

structure TelegramMessage where
  chat : Option Int
deriving Repr, DecidableEq

structure CallbackQuery where
  userId : Int
  message : Option TelegramMessage
  data : Option String
deriving Repr, DecidableEq

inductive CallbackDecision where
  | approve
  | deny
deriving Repr, DecidableEq

def CallbackDecision.text : CallbackDecision → String
  | .approve => "approve"
  | .deny => "deny"

structure ParsedCallback where
  decision : CallbackDecision
  txnId : String
deriving Repr, DecidableEq

inductive PayloadParseError where
  | legacyFormat
  | invalid
deriving Repr, DecidableEq

structure VerifiedCallback where
  decision : CallbackDecision
  txnId : String
  rawData : String
  approverId : Int
deriving Repr, DecidableEq

inductive CallbackRejection where
  | missingData
  | unsigned (data : String)
  | invalidSignature (data : String)
  | missingChat
  | wrongChat (chatId : Int)
  | noApproversConfigured (userId : Int)
  | unauthorizedApprover (userId : Int)
  | legacyFormat (data : String)
  | invalidPayload (data : String)
deriving Repr, DecidableEq

/-- The data of the two buttons of a request's keyboard. -/
def buildApprovalKeyboard (mac : Mac) (gateway : TelegramGateway)
    (txnId : String) (decision : CallbackDecision) : String :=
  let payload := decision.text ++ ":" ++ txnId
  payload ++ ":" ++ hmacSign mac gateway.hmacKey payload

def isIdChar (c : Char) : Bool :=
  c.isAlphanum || c == '_' || c == '-'

/-- Read `<decision>:<id>`, the payload in front of the tag. -/
def parseCallbackPayload (payload : String) : Except PayloadParseError ParsedCallback :=
  match RustStr.splitOnce payload ":" with
  | none => .error .invalid
  | some (decisionText, txnId) =>
    let decision? : Option CallbackDecision :=
      if decisionText = "approve" then some .approve
      else if decisionText = "deny" then some .deny
      else none
    match decision? with
    | none => .error .invalid
    | some decision =>
      if txnId.isEmpty then .error .invalid
      else if txnId.toList.contains ':' then .error .legacyFormat
      else if txnId.utf8ByteSize > 64 || !txnId.toList.all isIdChar then
        .error .invalid
      else .ok { decision, txnId }

/-- The checks in the order of the source: the tag, the chat, the approver, the
payload. -/
def verifyCallback (mac : Mac) (gateway : TelegramGateway)
    (callback : CallbackQuery) : Except CallbackRejection VerifiedCallback :=
  match callback.data with
  | none => .error .missingData
  | some data =>
    match RustStr.rsplitOnce data ':' with
    | none => .error (.unsigned data)
    | some (payload, tag) =>
      if tag.utf8ByteSize ≠ 16 ∨ ¬tag.toList.all (HexText.digitValue · |>.isSome) then
        .error (.unsigned data)
      else if ¬hmacVerify mac gateway.hmacKey payload tag then
        .error (.invalidSignature data)
      else
        match callback.message.bind (·.chat) with
        | none => .error .missingChat
        | some chat =>
          if gateway.chatId ≠ toString chat then .error (.wrongChat chat)
          else if gateway.allowedApprovers.isEmpty then
            .error (.noApproversConfigured callback.userId)
          else if ¬gateway.allowedApprovers.contains callback.userId then
            .error (.unauthorizedApprover callback.userId)
          else
            match parseCallbackPayload payload with
            | .error .legacyFormat => .error (.legacyFormat data)
            | .error .invalid => .error (.invalidPayload data)
            | .ok parsed =>
              .ok
                { decision := parsed.decision, txnId := parsed.txnId, rawData := data
                  approverId := callback.userId }

/-- The callback is a press of a button for this decision and request, by an
allow-listed user in the configured chat, with a tag that the gateway's key
gives to exactly this payload. -/
structure SignedPress (mac : Mac) (gateway : TelegramGateway)
    (callback : CallbackQuery) (decision : CallbackDecision) (txnId : String) : Prop where
  signed : ∃ tag, callback.data = some (decision.text ++ ":" ++ txnId ++ ":" ++ tag) ∧
    hmacVerify mac gateway.hmacKey (decision.text ++ ":" ++ txnId) tag = true
  chat : ∃ chat, callback.message.bind (·.chat) = some chat ∧ gateway.chatId = toString chat
  approver : callback.userId ∈ gateway.allowedApprovers

theorem parseCallbackPayload_eq_ok {payload : String} {parsed : ParsedCallback}
    (hparse : parseCallbackPayload payload = .ok parsed) :
    payload = parsed.decision.text ++ ":" ++ parsed.txnId := by
  revert hparse
  fun_cases parseCallbackPayload payload <;> intro hparse <;> cases hparse
  next decisionText txnId hsplit chosen decision hdecision _ _ _ =>
    have htext : decisionText = decision.text := by
      dsimp only [chosen] at hdecision
      split_ifs at hdecision with happrove hdeny
      · cases hdecision
        exact happrove
      · cases hdecision
        exact hdeny
    rw [RustStr.append_of_splitOnce hsplit, htext]

/-- What `verifyCallback` lets through. -/
theorem verifyCallback_eq_ok {mac : Mac} {gateway : TelegramGateway}
    {callback : CallbackQuery} {verified : VerifiedCallback}
    (hverify : verifyCallback mac gateway callback = .ok verified) :
    verified.approverId = callback.userId ∧
      SignedPress mac gateway callback verified.decision verified.txnId := by
  revert hverify
  fun_cases verifyCallback mac gateway callback <;> intro hverify <;> cases hverify
  next data hdata payload tag hsplit _ hsigned chat hchat hwrong _ happrover parsed hparsed =>
    have hpayload := parseCallbackPayload_eq_ok hparsed
    have happend := RustStr.append_of_rsplitOnce hsplit
    refine ⟨rfl, ⟨tag, ?_, ?_⟩, ⟨chat, hchat, ?_⟩, ?_⟩
    · rw [hdata, happend, hpayload]
      rfl
    · rw [← hpayload]
      simpa using hsigned
    · simpa using hwrong
    · simpa using happrover

end Proxxx
