/-
The `--secure` flag of scheduled commands.  A `run-due` under the flag decides
by the words of a command whether to pass it on, the child by its own grammar
whether it has it; the two differ where the flag's word is among the values of
a trailing variable argument.
-/
import Proxxx.ScheduleStore

namespace Proxxx

open RustStr

section Classification

/-- The commands of the program that have an action name, with what the name
depends on; `other` stands for those without one. -/
inductive CliCommand where
  | start
  | snapshotCreate
  | stop
  | restart
  | delete
  | suspend
  | migrate
  | exec
  | template
  | taskStop
  | snapshotDelete
  | diskMove
  | diskResize
  | qgaWrite
  | vmRawSet
  | vmSendkey
  | vmUnlink
  | ctRawSet
  | nodeStopall
  | nodeSuspendall
  | nodeSubscriptionDelete
  | nodeCertDelete
  | patchApply
  | haGroupDelete
  | clusterMappingPciDelete
  | clusterMappingUsbDelete
  | corosyncNodeAdd
  | corosyncNodeRemove
  | clusterJoin
  | qdeviceSetup
  | qdeviceUpdate
  | qdeviceDelete
  | firewallAliasUpdate
  | firewallAliasDelete
  | firewallGroupDelete
  | firewallIpsetAddCidr
  | firewallIpsetDelete
  | firewallIpsetRemoveCidr
  | firewallOptionsSet
  | guestFirewallAliasUpdate
  | guestFirewallAliasDelete
  | guestFirewallOptionsSet
  | poolRemoveMembers
  | poolDelete
  | userUpdate
  | userDelete
  | groupDelete
  | aclUnset
  | accessPassword
  | tokenRevoke
  | storageDelete
  | storageDefUpdate
  | storageDefDelete
  | backupJobDelete
  | acmeAccountDelete
  | acmePluginDelete
  | pbsRestore
  | metricServerDelete
  | notificationEndpointDelete
  | notificationMatcherDelete
  | scheduleRemove
  | stateApply
  | reconcileConverge
  | backup (mode : String)
  | ssh (cmd : Option String)
  | tokenBootstrap (rotate : Bool)
  | other
deriving Repr, DecidableEq

def cliHitlAction : CliCommand → Option String
  | .start => some "start"
  | .snapshotCreate => some "snapshot"
  | .stop => some "stop"
  | .restart => some "restart"
  | .delete => some "delete"
  | .suspend => some "suspend"
  | .migrate => some "migrate"
  | .exec => some "exec"
  | .template => some "template"
  | .taskStop => some "task_stop"
  | .snapshotDelete => some "snapshot_delete"
  | .diskMove => some "move_disk"
  | .diskResize => some "resize_disk"
  | .qgaWrite => some "qga_write"
  | .vmRawSet => some "vm_raw_set"
  | .vmSendkey => some "vm_sendkey"
  | .vmUnlink => some "vm_unlink"
  | .ctRawSet => some "ct_raw_set"
  | .nodeStopall => some "node_stopall"
  | .nodeSuspendall => some "node_suspendall"
  | .nodeSubscriptionDelete => some "node_subscription_delete"
  | .nodeCertDelete => some "node_cert_delete"
  | .patchApply => some "patch_apply"
  | .haGroupDelete => some "ha_group_delete"
  | .clusterMappingPciDelete => some "cluster_mapping_pci_delete"
  | .clusterMappingUsbDelete => some "cluster_mapping_usb_delete"
  | .corosyncNodeAdd => some "corosync_node_add"
  | .corosyncNodeRemove => some "corosync_node_remove"
  | .clusterJoin => some "cluster_join"
  | .qdeviceSetup => some "qdevice_setup"
  | .qdeviceUpdate => some "qdevice_update"
  | .qdeviceDelete => some "qdevice_delete"
  | .firewallAliasUpdate => some "firewall_alias_update"
  | .firewallAliasDelete => some "firewall_alias_delete"
  | .firewallGroupDelete => some "firewall_group_delete"
  | .firewallIpsetAddCidr => some "firewall_ipset_add_cidr"
  | .firewallIpsetDelete => some "firewall_ipset_delete"
  | .firewallIpsetRemoveCidr => some "firewall_ipset_remove_cidr"
  | .firewallOptionsSet => some "firewall_options_set"
  | .guestFirewallAliasUpdate => some "guest_firewall_alias_update"
  | .guestFirewallAliasDelete => some "guest_firewall_alias_delete"
  | .guestFirewallOptionsSet => some "guest_firewall_options_set"
  | .poolRemoveMembers => some "pool_remove_members"
  | .poolDelete => some "pool_delete"
  | .userUpdate => some "user_update"
  | .userDelete => some "user_delete"
  | .groupDelete => some "group_delete"
  | .aclUnset => some "acl_unset"
  | .accessPassword => some "access_password"
  | .tokenRevoke => some "token_revoke"
  | .storageDelete => some "storage_delete"
  | .storageDefUpdate => some "storage_def_update"
  | .storageDefDelete => some "storage_def_delete"
  | .backupJobDelete => some "backup_job_delete"
  | .acmeAccountDelete => some "acme_account_delete"
  | .acmePluginDelete => some "acme_plugin_delete"
  | .pbsRestore => some "pbs_restore"
  | .metricServerDelete => some "metric_server_delete"
  | .notificationEndpointDelete => some "notification_endpoint_delete"
  | .notificationMatcherDelete => some "notification_matcher_delete"
  | .scheduleRemove => some "schedule_remove"
  | .stateApply => some "state_apply"
  | .reconcileConverge => some "reconcile_converge"
  | .backup mode => if mode = "stop" ∨ mode = "suspend" then some "backup_stop" else none
  | .ssh cmd => if cmd.isSome then some "ssh_cmd" else none
  | .tokenBootstrap rotate => if rotate then some "token_bootstrap_rotate" else none
  | .other => none

def destructiveActions : List String :=
  ["stop", "delete", "restart", "migrate", "exec", "move_disk",
   "resize_disk", "suspend", "task_stop", "backup_stop", "template",
   "snapshot_delete", "patch_apply", "node_stopall", "node_suspendall",
   "vm_raw_set", "vm_sendkey", "vm_unlink", "ct_raw_set", "qga_write",
   "ssh_cmd", "ha_group_delete", "backup_job_delete",
   "firewall_alias_update", "firewall_alias_delete",
   "firewall_group_delete", "firewall_ipset_add_cidr",
   "firewall_ipset_delete", "firewall_ipset_remove_cidr",
   "firewall_options_set", "guest_firewall_alias_update",
   "guest_firewall_alias_delete", "guest_firewall_options_set",
   "cluster_mapping_pci_delete", "cluster_mapping_usb_delete",
   "node_subscription_delete", "node_cert_delete", "pool_remove_members",
   "pool_delete", "metric_server_delete", "notification_endpoint_delete",
   "notification_matcher_delete", "storage_def_update",
   "storage_def_delete", "storage_delete", "pbs_restore",
   "acme_account_delete", "acme_plugin_delete", "corosync_node_add",
   "corosync_node_remove", "cluster_join", "qdevice_setup",
   "qdevice_update", "qdevice_delete", "user_update", "user_delete",
   "group_delete", "acl_unset", "access_password", "token_revoke",
   "token_bootstrap_rotate", "schedule_remove", "state_apply", "reconcile_converge"]

def isDestructiveAction (action : String) : Bool :=
  destructiveActions.contains action

/-- The refusal of a destructive command. -/
structure SecureModeRefusal where
  action : String
deriving Repr, DecidableEq

def SecureModeRefusal.text (refusal : SecureModeRefusal) : String :=
  "--secure: " ++ refusal.action ++ " requires human approval, which the " ++
    "CLI does not implement yet; run it from the TUI with --secure, or drop " ++
    "--secure"

def enforceCliSecureMode (command : CliCommand) (secure : Bool) : Except SecureModeRefusal Unit :=
  if !secure then .ok ()
  else
    match cliHitlAction command with
    | some action => if isDestructiveAction action then .error { action } else .ok ()
    | none => .ok ()

end Classification

section Forwarding

/-- The argument parser: the command it reads, and the place of the first value
of a trailing variable argument, which takes everything behind it.  A flag in
front leaves the rest as it is. -/
structure ArgumentParser where
  command : List String → Option CliCommand
  trailing : List String → Option Nat
  trailing_secure : ∀ argv, trailing ("--secure" :: argv) =
    (trailing argv).map (· + 1)

/-- The words that can be flags: those before a bare `--` and before the values
of a trailing variable argument. -/
def ArgumentParser.flagWords (parser : ArgumentParser) (argv : List String) : List String :=
  let words :=
    match parser.trailing argv with
    | some first => argv.take first
    | none => argv
  words.takeWhile (· ≠ "--")

def ArgumentParser.secure (parser : ArgumentParser) (argv : List String) : Bool :=
  (parser.flagWords argv).contains "--secure"

inductive ChildEnd where
  | usageError
  | refused (refusal : SecureModeRefusal)
  | dispatched (command : CliCommand)
deriving Repr, DecidableEq

/-- A child process, up to the dispatch of its command. -/
def runChild (parser : ArgumentParser) (argv : List String) : ChildEnd :=
  match parser.command argv with
  | none => .usageError
  | some command =>
    match enforceCliSecureMode command (parser.secure argv) with
    | .error refusal => .refused refusal
    | .ok () => .dispatched command

/-- A child that runs under the flag, and refuses what is destructive. -/
structure ChildSecured (parser : ArgumentParser) (argv : List String) : Prop where
  secure : parser.secure argv = true
  refuses : ∀ command action, parser.command argv = some command →
    cliHitlAction command = some action → isDestructiveAction action = true →
    runChild parser argv = .refused { action }

/-- The word of the flag stands before a bare `--`, but only among the values
of a trailing variable argument. -/
structure ArgumentParser.HidesSecure (parser : ArgumentParser) (tokens : List String) : Prop where
  present : "--secure" ∈ tokens.takeWhile (· ≠ "--")
  trailing : ∃ first, parser.trailing tokens = some first ∧
    "--secure" ∉ (tokens.take first).takeWhile (· ≠ "--")

variable {parser : ArgumentParser} {argv tokens : List String}

theorem childSecured_of_secure (hsecure : parser.secure argv = true) :
    ChildSecured parser argv where
  secure := hsecure
  refuses command action hcommand haction hdestructive := by
    simp [runChild, hcommand, enforceCliSecureMode, hsecure, haction, hdestructive]

/-- A flag in front is read. -/
theorem secure_cons (parser : ArgumentParser) (tokens : List String) :
    parser.secure ("--secure" :: tokens) = true := by
  unfold ArgumentParser.secure ArgumentParser.flagWords
  rw [parser.trailing_secure]
  cases parser.trailing tokens with
  | none | some => simp

/-- The word of the flag, where the parent sees it, is a flag of the child
unless the values of a trailing argument hide it. -/
theorem secure_iff_not_hidden (hpresent : "--secure" ∈ tokens.takeWhile (· ≠ "--")) :
    parser.secure tokens = true ↔ ¬parser.HidesSecure tokens := by
  unfold ArgumentParser.secure ArgumentParser.flagWords
  cases htrailing : parser.trailing tokens with
  | none =>
    constructor
    · rintro - ⟨-, first, hfirst, -⟩
      rw [htrailing] at hfirst
      cases hfirst
    · intro _
      simpa using hpresent
  | some first =>
    constructor
    · rintro hread ⟨-, place, hplace, hnot⟩
      rw [htrailing] at hplace
      cases hplace
      exact hnot (by simpa using hread)
    · intro hshown
      by_contra hnot
      apply hshown
      exact ⟨hpresent, first, htrailing, by simpa using hnot⟩

theorem buildChildArgv_secured_iff (parser : ArgumentParser) (cmd : String) :
    parser.secure (buildChildArgv cmd true) = true ↔ ¬parser.HidesSecure (splitWhitespace cmd) := by
  by_cases hpresent : "--secure" ∈
      (splitWhitespace cmd).takeWhile (· ≠ "--")
  · have hargv : buildChildArgv cmd true = splitWhitespace cmd := by
      rw [buildChildArgv, if_neg]
      simpa using hpresent
    rw [hargv]
    exact secure_iff_not_hidden hpresent
  · have hargv : buildChildArgv cmd true = "--secure" :: splitWhitespace cmd := by
      have hnone : ((splitWhitespace cmd).takeWhile (· ≠ "--")).any
          (· = "--secure") = false := by
        rw [List.any_eq_false]
        intro word hword heq
        exact hpresent (of_decide_eq_true heq ▸ hword)
      rw [buildChildArgv, hnone]
      rfl
    rw [hargv]
    exact ⟨fun _ hhidden => hpresent hhidden.present, fun _ => secure_cons parser _⟩

/-- Every child of a `run-due` under the flag runs under it, and refuses what is
destructive, exactly if no due schedule hides the word of the flag among the
values of a trailing variable argument. -/
theorem children_secured_iff (parser : ArgumentParser) (call : ScheduleCall)
    (store : ScheduleStore) :
    (∀ run ∈ (({ call with secure := true } : ScheduleCall).runDue
        store).1.runs, ChildSecured parser run.argv) ↔
      ∀ entry ∈ store, entry.isDue call.now = true →
        ¬parser.HidesSecure (splitWhitespace entry.cmd) := by
  have hruns : ∀ argv, (∃ run ∈ (({ call with secure := true } : ScheduleCall).runDue
        store).1.runs, run.argv = argv) ↔
      ∃ entry ∈ store, entry.isDue call.now = true ∧ buildChildArgv entry.cmd true = argv := by
    intro argv
    have hargv := @runDueEntries_argv true call.now 0 call.children store
    have hmem := congrArg (argv ∈ ·) hargv
    simp only [List.mem_map, List.mem_filter, eq_iff_iff, and_assoc] at hmem
    rw [← hmem, runs_runDue]
  constructor
  · intro hsecured entry hentry hdue
    obtain ⟨run, hrun, hargv⟩ := (hruns _).mpr ⟨entry, hentry, hdue, rfl⟩
    rw [← buildChildArgv_secured_iff, ← hargv]
    exact (hsecured run hrun).secure
  · intro hshown run hrun
    obtain ⟨entry, hentry, hdue, hargv⟩ := (hruns run.argv).mp ⟨run, hrun, rfl⟩
    apply childSecured_of_secure
    rw [← hargv, buildChildArgv_secured_iff]
    exact hshown entry hentry hdue

end Forwarding

section ExecGrammar

/-- The global options that take a value. -/
def valueOptions : List String :=
  ["--profile", "--format", "--token-secret", "--token-secret-file"]

/-- The place of the first word of the command that `exec` runs in a guest:
`words` of the subcommand and its `vmid` have been read, `skip` says that the
next word is the value of an option. -/
def execTrailing (words : Nat) (skip : Bool) : List String → Option Nat
  | [] => none
  | word :: rest =>
    if skip then (execTrailing words false rest).map (· + 1)
    else if word = "--" then none
    else if valueOptions.contains word then
      (execTrailing words true rest).map (· + 1)
    else if startsWith word "-" then
      (execTrailing words false rest).map (· + 1)
    else
      match words with
      | 0 =>
        if word = "exec" then (execTrailing 1 false rest).map (· + 1)
        else none
      | 1 => (execTrailing 2 false rest).map (· + 1)
      | _ => some 0

/-- The grammar of `exec`. -/
def execParser : ArgumentParser where
  command argv := (execTrailing 0 false argv).map fun _ => .exec
  trailing := execTrailing 0 false
  trailing_secure argv := by
    rw [execTrailing, if_neg (by simp), if_neg (by decide +kernel),
      if_neg (by decide +kernel), if_pos (by decide +kernel)]

end ExecGrammar

namespace SecureWitness

def entry : ScheduleEntry where
  name := "reboot"
  intervalSecs := 86400
  cmd := "exec 100 reboot --secure"
  lastRun := 0
  nextRun := 100
  enabled := true

def call : ScheduleCall where
  command := .runDue
  secure := true
  now := 100

/-- The word is an argument of the command in the guest, so the flag is not
passed on and the child dispatches. -/
theorem hidden_flag_dispatched : (call.runDue [entry]).1.runs.map (·.argv) =
        [["exec", "100", "reboot", "--secure"]] ∧
      execParser.secure ["exec", "100", "reboot", "--secure"] = false ∧
      isDestructiveAction "exec" = true ∧
      runChild execParser ["exec", "100", "reboot", "--secure"] =
        .dispatched .exec := by refine ⟨?_, ?_, ?_, ?_⟩ <;> decide +kernel

end SecureWitness

end Proxxx
