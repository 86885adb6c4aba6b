/-
Minting an API token over SSH.  The commands, the secret store and the
verification answer in any way; a run is what it did, in order, and what it
returned.  The secret is in the output of one command, and what the run returns
and writes to the audit trail is the same for every secret.
-/
import Proxxx.RustStr

namespace Proxxx.TokenBootstrap

open List

/-- An error with its context, outermost first. -/
abbrev Errors := List String

structure ProfileConfig where
  profileLabel : String
  user : String
  tokenId : Option String
  tokenSecretFile : Option String
  readOnly : Bool
deriving Repr, DecidableEq

structure TokenBootstrapArgs where
  userid : Option String
  tokenid : Option String
  role : String
  aclPath : String
  secretFile : Option String
  rotate : Bool
  yes : Bool
deriving Repr, DecidableEq

inductive SecretStoreTarget where
  | file (path : String)
  | keychain (profile item : String)
deriving Repr, DecidableEq

inductive StoredSecretLocation where
  | file (path : String)
  | keychain (service account : String)
deriving Repr, DecidableEq

def StoredSecretLocation.storeKind : StoredSecretLocation → String
  | .file _ => "file"
  | .keychain _ _ => "macos-keychain"

def StoredSecretLocation.targetDescription : StoredSecretLocation → String
  | .file path => path
  | .keychain service account => service ++ ":" ++ account

structure BootstrapVerifyReport where
  ok : Bool
  version : Option String
  release : Option String
  nodesCount : Option Nat
  error : Option String
deriving Repr, DecidableEq

/-- What a remote command is run for. -/
inductive RemoteStep where
  | list
  | rotate
  | add
  | acl
  | rollback
deriving Repr, DecidableEq

structure ExecResult where
  stdout : String
  stderr : String
  /-- None if the channel was closed before the command told how it ended. -/
  exitCode : Option Nat
deriving Repr, DecidableEq

def ExecResult.ok (result : ExecResult) : Bool :=
  result.exitCode == some 0

/-- The trimmed error output, cut off. -/
def ExecResult.message (result : ExecResult) (limit : Nat) : String :=
  String.ofList ((RustStr.trim result.stderr).toList.take limit)

def debugCode : Option Nat → String
  | some code => "Some(" ++ toString code ++ ")"
  | none => "None"

/-- What the surroundings answer.  A text that is no JSON is refused at a line
and a column. -/
structure Env where
  exec : RemoteStep → Except Errors ExecResult
  writeAhead : Except Errors Unit
  parseList : String → Except (Nat × Nat) (List String)
  parseAdd : String → Except (Nat × Nat) String
  hasCompiledKeychain : Bool
  expandTilde : String → String
  tokenSecretPath : String → String
  debug : String → String
  store : Except Errors StoredSecretLocation
  verify : StoredSecretLocation → BootstrapVerifyReport

/-- The JSON that is returned with the exit code. -/
structure Report where
  profile : String
  node : String
  userid : String
  tokenid : String
  fullTokenid : String
  role : String
  aclPath : String
  rotated : Bool
  secretStore : String
  secretTarget : String
  verify : BootstrapVerifyReport
  tomlLines : List String
  tomlSnippet : String
  status : String
  notice : Option String
  tokenSecretFile : Option String
  exitCode : Nat
deriving Repr, DecidableEq

inductive Event where
  | exec (step : RemoteStep) (command : String)
  | sent (params : List (String × String))
  | outcome (text : String)
  | stored (target : SecretStoreTarget) (secret : String) (overwrite : Bool)
deriving Repr, DecidableEq

structure Run where
  events : List Event
  result : Except Errors Report

def Run.behind (events : List Event) (run : Run) : Run :=
  ⟨events ++ run.events, run.result⟩

section Arguments

/-- Characters that a shell would read as something else. -/
def isForbidden (more : List Char) (c : Char) : Bool :=
  RustStr.isControl c || RustStr.isWhitespace c ||
    (['\x60', '$', ';', '&', '|', '\'', '"', '\\'] ++ more).contains c

def validateIdentifier (env : Env) (name value : String) (requireRealm : Bool) :
    Except Errors Unit :=
  if value.isEmpty then .error [name ++ " must not be empty"]
  else if requireRealm && !value.toList.contains '@' then
    .error [name ++ " " ++ env.debug value ++
      " must include a realm (e.g. \x60root@pam\x60 or \x60ops@pve\x60)"]
  else if RustStr.startsWith value "-" then
    .error [name ++ " " ++ env.debug value ++ " must not start with '-'"]
  else if value.toList.any (isForbidden ['!']) then
    .error [name ++ " contains forbidden shell or control characters — refusing"]
  else .ok ()

def validateAclPath (env : Env) (path : String) : Except Errors Unit :=
  if !RustStr.startsWith path "/" then
    .error ["--acl-path " ++ env.debug path ++
      " must start with '/' (e.g. \x60/\x60 or \x60/vms/100\x60)"]
  else if path.toList.any (isForbidden []) then
    .error ["--acl-path contains forbidden shell or control characters — refusing"]
  else .ok ()

def quoteSingle (text : String) : String :=
  "'" ++ RustStr.replace text "'" "'\\''" ++ "'"

def quoteArg (text : String) : String :=
  if !text.isEmpty && text.toList.all fun c =>
      c.isAlphanum || ['@', '_', '-', '.', '/'].contains c then text
  else quoteSingle text

/-- The checked arguments. -/
structure Plan where
  profileLabel : String
  node : String
  userid : String
  tokenid : String
  role : String
  aclPath : String
  rotate : Bool
deriving Repr, DecidableEq

def Plan.fullTokenId (plan : Plan) : String :=
  plan.userid ++ "!" ++ plan.tokenid

def Plan.listCmd (plan : Plan) : String :=
  "pveum user token list " ++ quoteArg plan.userid ++ " --output-format json"

def Plan.removeCmd (plan : Plan) : String :=
  "pveum user token remove " ++ quoteArg plan.userid ++ " " ++ quoteArg plan.tokenid

def Plan.addCmd (plan : Plan) : String :=
  "pveum user token add " ++ quoteArg plan.userid ++ " " ++
    quoteArg plan.tokenid ++ " --privsep 1 --output-format json"

def Plan.aclCmd (plan : Plan) : String :=
  "pveum acl modify " ++ quoteArg plan.aclPath ++ " --tokens " ++
    quoteSingle plan.fullTokenId ++ " --roles " ++ quoteArg plan.role

/-- The refusals before any command is run. -/
def makePlan (env : Env) (config : ProfileConfig) (args : TokenBootstrapArgs)
    (node : String) : Except Errors Plan := do
  if config.readOnly then
    throw ["refusing mutation on SSH token bootstrap — profile '" ++
      config.profileLabel ++ "' is configured read-only (read_only = true). " ++
      "Remove the flag from this profile in config.toml to allow writes " ++
      "(or point it at a writable profile)."]
  if !args.yes then
    throw ["token bootstrap is destructive — re-run with --yes to confirm"]
  let userid := RustStr.trim (args.userid.getD config.user)
  let tokenid ←
    match ((args.tokenid.or config.tokenId).map RustStr.trim).filter (!·.isEmpty) with
    | some tokenid => pure tokenid
    | none =>
      throw ["no \x60token_id\x60 configured on profile '" ++
        config.profileLabel ++ "' — pass \x60--tokenid <id>\x60 or set " ++
        "\x60token_id\x60 in config.toml"]
  let role := RustStr.trim args.role
  let aclPath := RustStr.trim args.aclPath
  validateIdentifier env "userid" userid true
  validateIdentifier env "tokenid" tokenid false
  validateIdentifier env "role" role false
  validateAclPath env aclPath
  return ⟨config.profileLabel, node, userid, tokenid, role, aclPath, args.rotate⟩

def selectSecretStoreTarget (env : Env) (config : ProfileConfig)
    (args : TokenBootstrapArgs) : SecretStoreTarget :=
  match args.secretFile with
  | some path => .file (env.expandTilde path)
  | none =>
    match (config.tokenSecretFile.map RustStr.trim).filter (!·.isEmpty) with
    | some path => .file (env.expandTilde path)
    | none =>
      if env.hasCompiledKeychain then
        .keychain config.profileLabel "token_secret"
      else .file (env.tokenSecretPath config.profileLabel)

end Arguments

section Steps

variable (env : Env) (plan : Plan)

/-- Take the new token away again. -/
def rollbackCreatedToken : Except String Unit :=
  match env.exec .rollback with
  | .ok result =>
    if result.ok then .ok ()
    else .error ("rollback \x60pveum user token remove\x60 exited " ++
      debugCode result.exitCode ++ ": " ++ result.message 200)
  | .error e =>
    .error ("rollback \x60pveum user token remove\x60 failed: " ++ ": ".intercalate e)

/-- Roll back, note it in the audit trail and fail. -/
def rollbackAnd (outcome : String) (failure : Except String Unit → Errors) : Run :=
  ⟨[.exec .rollback plan.removeCmd, .outcome outcome], .error (failure (rollbackCreatedToken env))⟩

def tomlLines (stored : StoredSecretLocation) : List String :=
  match stored with
  | .file path =>
    ["token_id = " ++ env.debug plan.tokenid, "token_secret_file = " ++ env.debug path]
  | .keychain _ _ => ["token_id = " ++ env.debug plan.tokenid]

/-- Verify the stored secret and report. -/
def reportStored (rotated : Bool) (stored : StoredSecretLocation) : Run :=
  let report := env.verify stored
  ⟨[.outcome (if report.ok then "ok 0" else "ok 0 (verify_failed)")], .ok
      { profile := plan.profileLabel, node := plan.node, userid := plan.userid
        tokenid := plan.tokenid, fullTokenid := plan.fullTokenId, role := plan.role
        aclPath := plan.aclPath
        rotated
        secretStore := stored.storeKind, secretTarget := stored.targetDescription, verify := report
        tomlLines := tomlLines env plan stored
        tomlSnippet := "\n".intercalate (tomlLines env plan stored)
        status := if report.ok then "bootstrapped" else "verify_failed"
        notice :=
          if rotated then
            some ("existing token '" ++ plan.fullTokenId ++
              "' was removed and recreated (--rotate); " ++
              "the previous token secret no longer works")
          else none
        tokenSecretFile :=
          match stored with
          | .file path => some path
          | .keychain _ _ => none
        exitCode := if report.ok then 0 else 1 }⟩

/-- Store the secret before success is reported. -/
def storeSecret (target : SecretStoreTarget) (rotated : Bool) (secret : String) : Run :=
  Run.behind [.stored target secret plan.rotate] <|
    match env.store with
    | .ok stored => reportStored env plan rotated stored
    | .error e =>
      rollbackAnd env plan "error store_rolled_back" fun rollback =>
        match rollback with
        | .ok () =>
          ("failed to store token secret locally; rolled back newly created " ++
            "token '" ++ plan.fullTokenId ++ "' on " ++ plan.node ++
            " (secret was discarded and never printed)") :: e
        | .error rollbackError =>
          ("failed to store token secret locally, and rollback of '" ++
            plan.fullTokenId ++ "' on " ++ plan.node ++ " also failed (" ++
            rollbackError ++
            "); secret was discarded and never printed") :: e

/-- Grant the role to the new token. -/
def grantAcl (target : SecretStoreTarget) (rotated : Bool) (secret : String) : Run :=
  Run.behind [.exec .acl plan.aclCmd] <|
    match env.exec .acl with
    | .ok result =>
      if result.ok then storeSecret env plan target rotated secret
      else
        let failed := "\x60pveum acl modify\x60 on " ++ plan.node ++ " exited " ++
          debugCode result.exitCode ++ ": " ++ result.message 300
        rollbackAnd env plan "error acl_rolled_back" fun rollback =>
          match rollback with
          | .ok () =>
            [failed ++ " (rolled back newly created token '" ++ plan.fullTokenId ++ "')"]
          | .error rollbackError => [failed ++ "; additionally, rollback failed: " ++ rollbackError]
    | .error e =>
      rollbackAnd env plan "error acl_rolled_back" fun rollback =>
        match rollback with
        | .ok () =>
          ("\x60pveum acl modify\x60 failed on " ++ plan.node ++
            " (rolled back newly created token '" ++ plan.fullTokenId ++
            "')") :: e
        | .error rollbackError =>
          ("\x60pveum acl modify\x60 failed on " ++ plan.node ++
            "; additionally, rollback failed: " ++ rollbackError) :: e

/-- The secret in the output of the command, which is shown in no error. -/
def parseTokenAddStdout (stdout : String) : Except Errors String :=
  match env.parseAdd stdout with
  | .error (line, column) =>
    .error ["failed to parse JSON from \x60pveum user token add\x60 (line " ++
      toString line ++ ", column " ++ toString column ++
      ") — raw stdout suppressed to protect token secret"]
  | .ok value =>
    if (RustStr.trim value).isEmpty then
      .error ["\x60pveum user token add\x60 returned an empty token secret value"]
    else .ok value

/-- The token exists; what is left of it when something fails is removed. -/
def useToken (target : SecretStoreTarget) (rotated : Bool) (stdout : String) : Run :=
  match parseTokenAddStdout env stdout with
  | .ok secret => grantAcl env plan target rotated secret
  | .error e => rollbackAnd env plan "error add_parse_rolled_back" fun _ => e

def addToken (target : SecretStoreTarget) (rotated : Bool) : Run :=
  Run.behind [.exec .add plan.addCmd] <|
    match env.exec .add with
    | .error e =>
      ⟨[.outcome "error add_transport"], .error (("running \x60pveum user token add\x60 for '" ++
          plan.fullTokenId ++ "' on " ++ plan.node) :: e)⟩
    | .ok result =>
      if result.ok then useToken env plan target rotated result.stdout
      else
        ⟨[.outcome ("error add_" ++ toString (result.exitCode.getD 1))],
          .error ["\x60pveum user token add\x60 for '" ++ plan.fullTokenId ++
            "' on " ++ plan.node ++ " exited " ++ debugCode result.exitCode ++
            ": " ++ result.message 300]⟩

/-- Remove a token that is to be replaced. -/
def rotateToken (target : SecretStoreTarget) (tokenExists : Bool) : Run :=
  if !tokenExists then addToken env plan target false
  else
    Run.behind [.exec .rotate plan.removeCmd] <|
      match env.exec .rotate with
      | .error e =>
        ⟨[.outcome "error remove_transport"],
          .error (("removing existing token '" ++ plan.fullTokenId ++ "' on " ++
            plan.node ++ " (--rotate)") :: e)⟩
      | .ok result =>
        if result.ok then addToken env plan target true
        else
          ⟨[.outcome ("error remove_" ++ toString (result.exitCode.getD 1))],
            .error ["\x60pveum user token remove\x60 for '" ++
              plan.fullTokenId ++ "' on " ++ plan.node ++ " exited " ++
              debugCode result.exitCode ++ ": " ++ result.message 300]⟩

def Plan.auditParams : List (String × String) :=
  [("user", plan.userid), ("tokenid", plan.tokenid), ("role", plan.role),
    ("path", plan.aclPath), ("node", plan.node),
    ("rotate", if plan.rotate then "true" else "false")]

def Plan.tokenExists (tokens : List String) : Bool :=
  tokens.any fun tokenid => tokenid == plan.tokenid || tokenid == plan.fullTokenId

def parseTokenListStdout (stdout : String) : Except Errors (List String) :=
  match env.parseList stdout with
  | .ok tokens => .ok tokens
  | .error (line, column) =>
    .error ["failed to parse JSON from \x60pveum user token list\x60 (line " ++
      toString line ++ ", column " ++ toString column ++
      ") — raw stdout suppressed"]

/-- Ask whether the token exists. -/
def existingToken : Except Errors Bool :=
  match env.exec .list with
  | .error e => .error (("running \x60pveum user token list\x60 on " ++ plan.node) :: e)
  | .ok result =>
    if !result.ok then
      .error ["\x60pveum user token list\x60 on " ++ plan.node ++ " exited " ++
        debugCode result.exitCode ++ ": " ++ result.message 300]
    else do
      let tokens ← parseTokenListStdout env result.stdout
      if plan.tokenExists tokens && !plan.rotate then
        .error ["token '" ++ plan.fullTokenId ++ "' already exists on node '" ++
          plan.node ++ "'; pass \x60--rotate\x60 to remove and recreate it " ++
          "(note: rotating invalidates the previous token secret)"]
      else .ok (plan.tokenExists tokens)

/-- The audit trail is written before anything is changed. -/
def bootstrapPlanned (target : SecretStoreTarget) : Run :=
  Run.behind [.exec .list plan.listCmd] <|
    match existingToken env plan with
    | .error e => ⟨[], .error e⟩
    | .ok tokenExists =>
      match env.writeAhead with
      | .error e => ⟨[], .error e⟩
      | .ok () =>
        Run.behind [.sent plan.auditParams] <| rotateToken env plan target tokenExists

end Steps

def bootstrapTokenWith (env : Env) (config : ProfileConfig)
    (args : TokenBootstrapArgs) (node : String) : Run :=
  match makePlan env config args node with
  | .error e => ⟨[], .error e⟩
  | .ok plan => bootstrapPlanned env plan (selectSecretStoreTarget env config args)

section Safety

variable (env : Env) {run : Run} {events : List Event}

/-- A row of the audit trail that tells of a removed token. -/
def saysRolledBack (text : String) : Bool :=
  RustStr.contains text "rolled_back"

/-- The command may have created a token: it says so, or nobody knows how it
ended. -/
def Env.mayHaveCreated : Bool :=
  match env.exec .add with
  | .ok result => result.exitCode == none || result.ok
  | .error _ => true

/-- The command told how it ended. -/
def Env.addAnswered : Bool :=
  match env.exec .add with
  | .ok result => result.exitCode.isSome
  | .error _ => false

def Env.rollsBack : Bool :=
  match env.exec .rollback with
  | .ok result => result.ok
  | .error _ => false

/-- An error comes with an attempt to remove a token that may have been created,
and the audit trail tells of a removed token only if the removal succeeded. -/
structure Safe (run : Run) : Prop where
  compensated : ∀ errors command, run.result = .error errors →
    .exec .add command ∈ run.events → env.mayHaveCreated = true →
    ∃ removal, [.exec .add command, .exec .rollback removal].Sublist run.events
  truthful : ∀ text, .outcome text ∈ run.events → saysRolledBack text = true →
    (∃ removal, .exec .rollback removal ∈ run.events) ∧ env.rollsBack = true

/-- Something fails after the token was created. -/
def Env.needsRollback : Bool :=
  match env.exec .add with
  | .ok result =>
    result.ok && (!(parseTokenAddStdout env result.stdout).isOk ||
        !(match env.exec .acl with
          | .ok granted => granted.ok
          | .error _ => false) ||
        !env.store.isOk)
  | .error _ => false

/-- Nothing stands in the way of the new token. -/
def Env.clears (plan : Plan) : Prop :=
  ∃ tokenExists, existingToken env plan = .ok tokenExists ∧ env.writeAhead = .ok () ∧
    (tokenExists = true → ∃ result, env.exec .rotate = .ok result ∧ result.ok = true)

/-- Events that say nothing about the new token. -/
def Event.isPlain : Event → Bool
  | .exec .add _ => false
  | .exec .rollback _ => false
  | .exec _ _ => true
  | .sent _ => true
  | .outcome text => !saysRolledBack text
  | .stored _ _ _ => true

theorem safe_of_plain (hplain : run.events.all Event.isPlain = true) : Safe env run where
  compensated := by
    intro errors command _ hadd
    have hadd' := all_eq_true.mp hplain _ hadd
    cases hadd'
  truthful := by
    intro text hrow hsays
    have hrow' := all_eq_true.mp hplain _ hrow
    simp [Event.isPlain, hsays] at hrow'

theorem safe_cons {event : Event} (hplain : event.isPlain = true) :
    Safe env ⟨event :: run.events, run.result⟩ ↔ Safe env run := by
  have hother : ∀ {other : Event}, other ∈ event :: run.events →
      other.isPlain = false → other ∈ run.events := by
    intro other hmem hother
    rcases mem_cons.mp hmem with rfl | hmem
    · rw [hplain] at hother
      cases hother
    · exact hmem
  constructor
  · intro hsafe
    constructor
    · intro errors command herror hadd hmay
      obtain ⟨removal, hsublist⟩ :=
        hsafe.compensated errors command herror (mem_cons_of_mem _ hadd) hmay
      refine ⟨removal, ?_⟩
      cases hsublist with
      | cons _ hrest => exact hrest
      | cons_cons _ hrest => cases hplain
    · intro text hrow hsays
      obtain ⟨⟨removal, hremoval⟩, hsucceeded⟩ := hsafe.truthful text (mem_cons_of_mem _ hrow) hsays
      exact ⟨⟨removal, hother hremoval rfl⟩, hsucceeded⟩
  · intro hsafe
    constructor
    · intro errors command herror hadd hmay
      obtain ⟨removal, hsublist⟩ := hsafe.compensated errors command herror (hother hadd rfl) hmay
      exact ⟨removal, hsublist.cons event⟩
    · intro text hrow hsays
      have hplainRow : (Event.outcome text).isPlain = false := by simp [Event.isPlain, hsays]
      obtain ⟨⟨removal, hremoval⟩, hsucceeded⟩ := hsafe.truthful text (hother hrow hplainRow) hsays
      exact ⟨⟨removal, mem_cons_of_mem _ hremoval⟩, hsucceeded⟩

/-- What was done before does not matter as long as it is plain. -/
theorem safe_behind {events : List Event} (hplain : events.all Event.isPlain = true) :
    Safe env (run.behind events) ↔ Safe env run := by
  induction events with
  | nil => exact Iff.rfl
  | cons event rest ih =>
    rw [List.all_cons, Bool.and_eq_true] at hplain
    rw [← ih hplain.2]
    exact @safe_cons env (run.behind rest) event hplain.1

theorem not_contains_of_not_mem {text pattern : String} {c : Char}
    (hpattern : c ∈ pattern.toList) (htext : c ∉ text.toList) :
    RustStr.contains text pattern = false := by
  rw [RustStr.contains, Option.isSome_eq_false_iff, Option.isNone_iff_eq_none,
    Option.eq_none_iff_forall_ne_some]
  rintro ⟨left, right⟩ hsplit
  have htext' := RustStr.append_of_splitOnce hsplit
  rw [htext'] at htext
  exact htext (by simp [hpattern])

/-- A row with an exit code does not tell of a removed token. -/
theorem not_saysRolledBack_code (front : String) (code : Nat) (hfront : 'k' ∉ front.toList) :
    saysRolledBack (front ++ toString code) = false := by
  refine not_contains_of_not_mem (c := 'k') (by decide) ?_
  rw [String.toList_append, mem_append, not_or]
  refine ⟨hfront, fun hdigit => ?_⟩
  exact absurd (RustStr.isDigit_of_mem_toString hdigit) (by decide)

theorem safe_row {row : String} (result : Except Errors Report)
    (hrow : saysRolledBack row = false) : Safe env ⟨[.outcome row], result⟩ :=
  safe_of_plain env (by simp [Event.isPlain, hrow])

variable (plan : Plan) (target : SecretStoreTarget) (rotated : Bool)

/-- Once the token is there, either everything goes well, or the last steps are
its removal and a row that tells of it. -/
theorem useToken_cases {result : ExecResult} (hadd : env.exec .add = .ok result)
    (hok : result.ok = true) :
    (env.needsRollback = true ∧ ∃ front outcome errors,
      useToken env plan target rotated result.stdout =
        ⟨front ++ [.exec .rollback plan.removeCmd, .outcome outcome], .error errors⟩ ∧
      front.all Event.isPlain = true ∧ saysRolledBack outcome = true) ∨
    (env.needsRollback = false ∧ ∃ report,
      (useToken env plan target rotated result.stdout).result = .ok report ∧
      (useToken env plan target rotated result.stdout).events.all Event.isPlain = true) := by
  have hneeds : env.needsRollback = (!(parseTokenAddStdout env result.stdout).isOk ||
        !(match env.exec .acl with
          | .ok granted => granted.ok
          | .error _ => false) ||
        !env.store.isOk) := by
    rw [Env.needsRollback, hadd]
    simp [hok]
  rw [hneeds]
  unfold useToken
  cases hparse : parseTokenAddStdout env result.stdout with
  | error errors => exact .inl ⟨rfl, [], _, _, rfl, rfl, by decide +kernel⟩
  | ok secret =>
    unfold grantAcl
    cases hacl : env.exec .acl with
    | error errors => exact .inl ⟨rfl, [_], _, _, rfl, rfl, by decide +kernel⟩
    | ok granted =>
      cases hgranted : granted.ok with
      | false =>
        simp only [hgranted, Bool.false_eq_true, if_false]
        exact .inl ⟨rfl, [_], _, _, rfl, rfl, by decide +kernel⟩
      | true =>
        simp only [hgranted, if_true]
        unfold storeSecret
        cases hstore : env.store with
        | error errors => exact .inl ⟨rfl, [_, _], _, _, rfl, rfl, by decide +kernel⟩
        | ok stored =>
          refine .inr ⟨rfl, _, rfl, ?_⟩
          have hverified : (Event.outcome (if (env.verify stored).ok then "ok 0"
                else "ok 0 (verify_failed)")).isPlain = true := by
            cases (env.verify stored).ok <;> decide +kernel
          simpa [Run.behind, reportStored] using ⟨rfl, rfl, hverified⟩

/-- An error without a removal is safe if no token can have been created. -/
theorem addFailed_safe_iff {command row : String} {errors : Errors}
    (hrow : saysRolledBack row = false) :
    Safe env (Run.behind [.exec .add command] ⟨[.outcome row], .error errors⟩) ↔
      env.mayHaveCreated = false := by
  constructor
  · intro hsafe
    rw [← Bool.not_eq_true]
    intro hmay
    obtain ⟨removal, hsublist⟩ := hsafe.compensated errors command rfl mem_cons_self hmay
    have hremoval := hsublist.subset (mem_cons_of_mem _ mem_cons_self)
    simp [Run.behind] at hremoval
  · intro hno
    constructor
    · intro _ _ _ _ hmay
      rw [hno] at hmay
      cases hmay
    · intro text htext hsays
      have htext' : text = row := by simpa [Run.behind] using htext
      rw [htext', hrow] at hsays
      cases hsays

/-- An error with a removal is safe if the removal succeeds. -/
theorem addRemoved_safe_iff {command removal row : String} {errors : Errors}
    {front : List Event} (hfront : front.all Event.isPlain = true)
    (hrow : saysRolledBack row = true) :
    Safe env (Run.behind [.exec .add command]
      ⟨front ++ [.exec .rollback removal, .outcome row], .error errors⟩) ↔
      env.rollsBack = true := by
  constructor
  · intro hsafe
    exact (hsafe.truthful row (by simp [Run.behind]) hrow).2
  · intro hsucceeded
    constructor
    · intro _ other _ hother _
      have hsame : other = command := by
        have hother' : Event.exec .add other ∈ .exec .add command ::
            (front ++ [.exec .rollback removal, .outcome row]) := hother
        rcases mem_cons.mp hother' with heq | hmem
        · exact (Event.exec.inj heq).2
        · rcases mem_append.mp hmem with hin | hin
          · have hplain := all_eq_true.mp hfront _ hin
            cases hplain
          · simp at hin
      subst hsame
      refine ⟨removal, List.Sublist.cons_cons _ ?_⟩
      simp
    · intro text _ _
      exact ⟨⟨removal, by simp [Run.behind]⟩, hsucceeded⟩

/-- From the new token on, a run is safe exactly if the command told how it ended
and a removal that is needed succeeds. -/
theorem addToken_safe_iff : Safe env (addToken env plan target rotated) ↔
    env.addAnswered = true ∧ (env.needsRollback = true → env.rollsBack = true) := by
  unfold addToken
  cases hadd : env.exec .add with
  | error errors =>
    have hmay : env.mayHaveCreated = true := by rw [Env.mayHaveCreated, hadd]
    have hanswered : env.addAnswered = false := by rw [Env.addAnswered, hadd]
    rw [addFailed_safe_iff env (by decide +kernel), hmay, hanswered]
    simp
  | ok result =>
    cases hok : result.ok with
    | false =>
      have hneeds : env.needsRollback = false := by
        rw [Env.needsRollback, hadd]
        simp [hok]
      simp only [hok, Bool.false_eq_true, if_false]
      rw [addFailed_safe_iff env (not_saysRolledBack_code _ _ (by decide)),
        hneeds, Env.mayHaveCreated, Env.addAnswered, hadd]
      simp only [hok]
      cases result.exitCode <;> simp
    | true =>
      have hanswered : env.addAnswered = true := by
        have hcode : result.exitCode = some 0 := by simpa [ExecResult.ok] using hok
        rw [Env.addAnswered, hadd]
        simp [hcode]
      simp only [hok, if_true]
      rw [hanswered]
      rcases useToken_cases env plan target rotated hadd hok with
        ⟨hneeds, front, row, errors, hrun, hfront, hsays⟩ |
        ⟨hneeds, report, hresult, hplain⟩
      · rw [hrun, addRemoved_safe_iff env hfront hsays, hneeds]
        simp
      · rw [hneeds]
        simp only [true_and, Bool.false_eq_true, false_imp_iff, iff_true]
        constructor
        · intro errors command herror
          have hreturned : (Except.ok report : Except Errors Report) =
              .error errors := hresult.symm.trans herror
          cases hreturned
        · intro text htext hsays
          rcases mem_cons.mp htext with heq | hmem
          · cases heq
          · exact (safe_of_plain env hplain).truthful text hmem hsays |>.imp_left
              fun ⟨removal, hremoval⟩ => ⟨removal, mem_cons_of_mem _ hremoval⟩

theorem rotateToken_safe_iff (tokenExists : Bool) :
    Safe env (rotateToken env plan target tokenExists) ↔
      ((tokenExists = true → ∃ result, env.exec .rotate = .ok result ∧
        result.ok = true) → env.addAnswered = true ∧
        (env.needsRollback = true → env.rollsBack = true)) := by
  unfold rotateToken
  cases tokenExists with
  | false => simpa using addToken_safe_iff env plan target false
  | true =>
    simp only [Bool.not_true, Bool.false_eq_true, if_false, true_imp_iff]
    rw [safe_behind env (by rfl)]
    cases hremove : env.exec .rotate with
    | error errors =>
      refine iff_of_true (safe_row env _ (by decide +kernel)) ?_
      simp
    | ok result =>
      cases hok : result.ok with
      | true =>
        simp only [hok, if_true, addToken_safe_iff]
        simp [hok]
      | false =>
        simp only [hok, Bool.false_eq_true, if_false]
        refine iff_of_true (safe_row env _ (not_saysRolledBack_code _ _ (by decide))) ?_
        simp [hok]

/-- A run is safe exactly if, once nothing stands in the way of the new token, the
command that creates it tells how it ended and a removal that is needed
succeeds. -/
theorem bootstrapPlanned_safe_iff :
    Safe env (bootstrapPlanned env plan target) ↔ (env.clears plan → env.addAnswered = true ∧
        (env.needsRollback = true → env.rollsBack = true)) := by
  unfold bootstrapPlanned Env.clears
  rw [safe_behind env (by rfl)]
  cases hexisting : existingToken env plan with
  | error errors =>
    refine iff_of_true (safe_of_plain env rfl) ?_
    simp
  | ok tokenExists =>
    cases hahead : env.writeAhead with
    | error errors =>
      refine iff_of_true (safe_of_plain env rfl) ?_
      simp
    | ok _ =>
      simp only []
      rw [safe_behind env (by rfl), rotateToken_safe_iff]
      simp

end Safety

section Secrecy

variable (env : Env) (plan : Plan) (target : SecretStoreTarget) (rotated : Bool)

/-- The rows of the audit trail. -/
def Event.isAudit : Event → Bool
  | .sent _ => true
  | .outcome _ => true
  | _ => false

/-- What others get to see of a run. -/
def Run.shown (run : Run) : List Event × Except Errors Report :=
  (run.events.filter Event.isAudit, run.result)

/-- The same surroundings, with another output of the command that creates the
token. -/
def Env.withAddStdout (stdout : String) : Env :=
  { env with
    exec := fun step =>
      match step with
      | .add => (env.exec .add).map ({ · with stdout })
      | other => env.exec other }

/-- What the run finds out about the output: where it is no JSON, or whether the
secret is blank. -/
def Env.addView (stdout : String) : Except (Nat × Nat) Bool :=
  (env.parseAdd stdout).map fun value => (RustStr.trim value).isEmpty

theorem shown_behind {run other : Run} {events others : List Event}
    (hevents : events.filter Event.isAudit = others.filter Event.isAudit)
    (hrun : run.shown = other.shown) :
    (run.behind events).shown = (other.behind others).shown := by
  rw [Run.shown, Run.shown, Prod.mk.injEq] at hrun ⊢
  exact ⟨by simp [Run.behind, hevents, hrun.1], hrun.2⟩

/-- The secret goes to the store and nowhere else. -/
theorem grantAcl_shown (secret other : String) :
    (grantAcl env plan target rotated secret).shown =
      (grantAcl env plan target rotated other).shown := by
  unfold grantAcl
  refine shown_behind rfl ?_
  cases env.exec .acl with
  | error errors => rfl
  | ok result =>
    cases hok : result.ok with
    | false => simp only [hok, Bool.false_eq_true, if_false]
    | true =>
      simp only [hok, if_true]
      exact shown_behind rfl rfl

variable {stdout other : String} (hview : env.addView stdout = env.addView other)
include hview

theorem parseTokenAddStdout_eq_error_iff (errors : Errors) :
    parseTokenAddStdout env stdout = .error errors ↔
      parseTokenAddStdout env other = .error errors := by
  unfold parseTokenAddStdout
  revert hview
  unfold Env.addView
  cases env.parseAdd stdout with
  | error place =>
    cases env.parseAdd other with
    | error place' =>
      intro hview
      obtain rfl := Except.error.inj hview
      rfl
    | ok value => nofun
  | ok value =>
    cases env.parseAdd other with
    | error place => nofun
    | ok value' =>
      intro hview
      have hblank : (RustStr.trim value).isEmpty =
          (RustStr.trim value').isEmpty := Except.ok.inj hview
      dsimp only
      rw [hblank]
      split
      · rfl
      · simp only [reduceCtorEq]

theorem useToken_shown : (useToken env plan target rotated stdout).shown =
    (useToken env plan target rotated other).shown := by
  have herrors := parseTokenAddStdout_eq_error_iff env hview
  unfold useToken
  cases hone : parseTokenAddStdout env stdout with
  | error errors => rw [(herrors errors).mp hone]
  | ok secret =>
    cases htwo : parseTokenAddStdout env other with
    | error errors =>
      rw [(herrors errors).mpr htwo] at hone
      cases hone
    | ok secret' => exact grantAcl_shown env plan target rotated secret secret'

theorem addToken_shown :
    (addToken (env.withAddStdout stdout) plan target rotated).shown =
      (addToken (env.withAddStdout other) plan target rotated).shown := by
  have hexec : ∀ text, (env.withAddStdout text).exec .add =
      (env.exec .add).map ({ · with stdout := text }) := fun _ => rfl
  have huse : ∀ text, useToken (env.withAddStdout text) plan target rotated text =
      useToken env plan target rotated text := fun _ => rfl
  unfold addToken
  refine shown_behind rfl ?_
  rw [hexec, hexec]
  cases env.exec .add with
  | error errors => rfl
  | ok result =>
    have hok : ∀ text, ExecResult.ok ⟨text, result.stderr, result.exitCode⟩ =
        result.ok := fun _ => rfl
    simp only [Except.map, hok, huse]
    cases result.ok with
    | false => rfl
    | true => exact useToken_shown env plan target rotated hview

theorem rotateToken_shown (tokenExists : Bool) :
    (rotateToken (env.withAddStdout stdout) plan target tokenExists).shown =
      (rotateToken (env.withAddStdout other) plan target tokenExists).shown := by
  have hexec : ∀ text, (env.withAddStdout text).exec .rotate = env.exec .rotate := fun _ => rfl
  unfold rotateToken
  cases tokenExists with
  | false => exact addToken_shown env plan target false hview
  | true =>
    refine shown_behind rfl ?_
    rw [hexec, hexec]
    cases env.exec .rotate with
    | error errors => rfl
    | ok result =>
      by_cases hok : result.ok = true
      · simp only [hok, if_true]
        exact addToken_shown env plan target true hview
      · simp only [hok, Bool.false_eq_true, if_false]

theorem bootstrapPlanned_shown :
    (bootstrapPlanned (env.withAddStdout stdout) plan target).shown =
      (bootstrapPlanned (env.withAddStdout other) plan target).shown := by
  have hexisting : ∀ text, existingToken (env.withAddStdout text) plan =
      existingToken env plan := fun _ => rfl
  have hahead : ∀ text, (env.withAddStdout text).writeAhead = env.writeAhead := fun _ => rfl
  unfold bootstrapPlanned
  refine shown_behind rfl ?_
  rw [hexisting, hexisting]
  cases existingToken env plan with
  | error errors => rfl
  | ok tokenExists =>
    simp only [hahead]
    cases env.writeAhead with
    | error errors => rfl
    | ok _ => exact shown_behind rfl (rotateToken_shown env plan target hview tokenExists)

end Secrecy

/-- A run is safe exactly if, once the arguments pass and nothing stands in the
way, the command that creates the token tells how it ended and a removal that is
needed succeeds.  What a run returns and writes to the audit trail is the same
for every secret. -/
theorem bootstrap_token_safe_iff (config : ProfileConfig)
    (args : TokenBootstrapArgs) (node : String) :
    (∀ env : Env, Safe env (bootstrapTokenWith env config args node) ↔
      ∀ plan, makePlan env config args node = .ok plan → env.clears plan → env.addAnswered = true ∧
          (env.needsRollback = true → env.rollsBack = true)) ∧
    ∀ (env : Env) (stdout other : String), env.addView stdout = env.addView other →
      (bootstrapTokenWith (env.withAddStdout stdout) config args node).shown =
        (bootstrapTokenWith (env.withAddStdout other) config args node).shown := by
  constructor
  · intro env
    unfold bootstrapTokenWith
    cases makePlan env config args node with
    | error errors =>
      refine iff_of_true (safe_of_plain env rfl) ?_
      simp
    | ok plan =>
      rw [bootstrapPlanned_safe_iff]
      simp
  · intro env stdout other hview
    have hplan : ∀ text, makePlan (env.withAddStdout text) config args node =
        makePlan env config args node := fun _ => rfl
    have htarget : ∀ text, selectSecretStoreTarget (env.withAddStdout text) config
        args = selectSecretStoreTarget env config args := fun _ => rfl
    unfold bootstrapTokenWith
    rw [hplan, hplan, htarget, htarget]
    cases makePlan env config args node with
    | error errors => rfl
    | ok plan => exact bootstrapPlanned_shown env plan _ hview

namespace Witness

def config : ProfileConfig := ⟨"lab", "root@pam", some "cli", none, false⟩

def args : TokenBootstrapArgs :=
  ⟨none, none, "PVEAuditor", "/", some "token", false, true⟩

/-- Surroundings in which the token does not exist yet and the store refuses the
secret. -/
def refusing (add rollback : Except Errors ExecResult) : Env where
  exec := fun step =>
    match step with
    | .add => add
    | .rollback => rollback
    | _ => .ok ⟨"[]", "", some 0⟩
  writeAhead := .ok ()
  parseList := fun _ => .ok []
  parseAdd := fun stdout => .ok stdout
  hasCompiledKeychain := false
  expandTilde := id
  tokenSecretPath := id
  debug := id
  store := .error ["file exists"]
  verify := fun _ => ⟨false, none, none, none, none⟩

/-- With a removal that succeeds the run is safe, and two secrets show the
same. -/
theorem bootstrap_token_safe_refused :
    Safe (refusing (.ok ⟨"s3cret", "", some 0⟩) (.ok ⟨"", "", some 0⟩)) (bootstrapTokenWith
        (refusing (.ok ⟨"s3cret", "", some 0⟩) (.ok ⟨"", "", some 0⟩)) config args
        "pve1") ∧
    (bootstrapTokenWith ((refusing (.ok ⟨"s3cret", "", some 0⟩)
        (.ok ⟨"", "", some 0⟩)).withAddStdout "one") config args "pve1").shown =
      (bootstrapTokenWith ((refusing (.ok ⟨"s3cret", "", some 0⟩)
          (.ok ⟨"", "", some 0⟩)).withAddStdout "two") config args "pve1").shown := by
  obtain ⟨hsafe, hshown⟩ := bootstrap_token_safe_iff config args "pve1"
  refine ⟨(hsafe _).mpr fun plan _ _ => ⟨rfl, fun _ => rfl⟩, ?_⟩
  exact hshown _ "one" "two" (by decide +kernel)

/-- A connection that breaks after the token was created leaves it there. -/
theorem bootstrap_token_left_behind :
    ¬ ∀ (env : Env) (config : ProfileConfig) (args : TokenBootstrapArgs)
      (node : String), Safe env (bootstrapTokenWith env config args node) := by
  intro hall
  have hsafe := hall (refusing (.error ["timed out"]) (.ok ⟨"", "", some 0⟩)) config args "pve1"
  have hplan : makePlan (refusing (.error ["timed out"]) (.ok ⟨"", "", some 0⟩))
      config args "pve1" = .ok ⟨"lab", "pve1", "root@pam", "cli", "PVEAuditor", "/", false⟩ := by
    rfl
  unfold bootstrapTokenWith at hsafe
  rw [hplan] at hsafe
  have hanswered := ((bootstrapPlanned_safe_iff _ _ _).mp hsafe ⟨false, rfl, rfl, by simp⟩).1
  cases hanswered

end Witness

end Proxxx.TokenBootstrap
