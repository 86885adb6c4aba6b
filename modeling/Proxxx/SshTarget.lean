/-
Where the SSH layer connects for a node.  An address in the configuration comes
first; the node that answers the API may be reached at the host of the profile's
URL, which can as well be a shared address in front of several nodes, so there
the remote host is asked for its name.
-/
import Proxxx.KnownHosts
import Proxxx.Utf8Text

namespace Proxxx.Ssh

open List

section Addresses

/-- Where the address of a node was taken from. -/
inductive SshHostSource where
  | explicitHosts
  | apiUrlFallback
  | nodeNameFallback
deriving Repr, DecidableEq

structure ResolvedNodeSsh extends Endpoint where
  source : SshHostSource
deriving Repr, DecidableEq

structure SshConfig where
  hosts : List (String × String)
  maxConcurrent : Nat
  idleTimeoutSecs : Nat
deriving Repr, DecidableEq

structure ClusterStatusEntry where
  entryType : String
  name : String
  isLocal : Bool
deriving Repr, DecidableEq

/-- The host of a URL as an address; `hostStr` is the URL parser's answer. -/
def extractUrlHost (hostStr : String → Option String) (url : String) : Option String :=
  (hostStr url).bind fun host =>
    let raw := RustStr.trim host
    let stripped := ((RustStr.stripPrefix raw "[").bind fun rest =>
      RustStr.stripSuffix rest "]").getD raw
    if stripped.isEmpty then none else some stripped

/-- The node that answers the API: the one marked so, or the only one of an
installation without a cluster. -/
def apiLocalNodeFromStatus (entries : List ClusterStatusEntry) : Option String :=
  let nodeEntries := entries.filter fun entry => entry.entryType != "cluster" && !entry.name.isEmpty
  match nodeEntries.find? (·.isLocal) with
  | some entry => some entry.name
  | none =>
    let hasClusterEntry := entries.any (·.entryType == "cluster")
    match nodeEntries with
    | [entry] => if hasClusterEntry then none else some entry.name
    | _ => none

namespace SshConfig

def resolveExplicitHost (cfg : SshConfig) (node : String) : Option Endpoint :=
  (cfg.hosts.lookup node).map parseSshHostSpec

def resolveHost (cfg : SshConfig) (hostStr : String → Option String)
    (node : String) (apiUrl apiLocalNode : Option String) : ResolvedNodeSsh :=
  match cfg.resolveExplicitHost node with
  | some endpoint => ⟨endpoint, .explicitHosts⟩
  | none =>
    let urlHost :=
      if apiLocalNode = some node then apiUrl.bind (extractUrlHost hostStr)
      else none
    match urlHost with
    | some host => ⟨⟨host, 22⟩, .apiUrlFallback⟩
    | none => ⟨⟨node, 22⟩, .nodeNameFallback⟩

end SshConfig

end Addresses

section Identity

/-- A captured command. -/
structure ExecResult where
  stdout : String
  stderr : String
  exitCode : Option Nat
deriving Repr, DecidableEq

namespace ExecResult

def ok (res : ExecResult) : Bool :=
  res.exitCode == some 0

def exitText (res : ExecResult) : String :=
  match res.exitCode with
  | some code => "Some(" ++ toString code ++ ")"
  | none => "None"

end ExecResult

/-- The remote name against the expected one, both up to the first dot. -/
def verifyRemoteHostnameOutput (expectedNode : String) (reached : Endpoint)
    (res : ExecResult) : Except String Unit :=
  let place := reached.host ++ ":" ++ toString reached.port.toNat
  if !res.ok then
    .error ("SSH identity check failed for node '" ++ expectedNode ++
      "' on " ++ place ++ " (\x60hostname\x60 exited " ++ res.exitText ++
      "): " ++ RustStr.trim res.stderr)
  else
    let rawRemote := RustStr.trim res.stdout
    let remoteShort :=
      RustStr.trim ((RustStr.split rawRemote '.').head?.getD "")
    let expectedShort := RustStr.trim
      ((RustStr.split expectedNode '.').head?.getD expectedNode)
    if remoteShort.isEmpty ||
        (!RustStr.eqIgnoreAsciiCase rawRemote expectedNode &&
          !RustStr.eqIgnoreAsciiCase remoteShort expectedShort) then
      .error ("SSH target identity mismatch for node '" ++ expectedNode ++
        "': connected to " ++ place ++ " (via profile URL fallback), " ++
        "but remote hostname is '" ++ rawRemote ++ "' (expected '" ++
        expectedNode ++ "'). The profile URL may point to a VIP or load " ++
        "balancer; configure an explicit address under [ssh]:\n" ++
        "hosts = \x7b " ++ expectedNode ++ " = \"<ip>:22\" \x7d")
    else .ok ()

/-- What a name says up to its first dot. -/
def shortName (name : String) : String :=
  RustStr.trim (String.ofList (name.toList.takeWhile (· ≠ '.')))

/-- The output names the node, up to case and a domain. -/
def ReportsNode (node stdout : String) : Prop :=
  shortName (RustStr.trim stdout) ≠ "" ∧ RustStr.eqIgnoreAsciiCase (shortName (RustStr.trim stdout))
      (shortName node) = true

theorem head?_split_dot (name : String) : (RustStr.split name '.').head? =
    some (String.ofList (name.toList.takeWhile (· ≠ '.'))) := by
  have hhead : ∀ text : List Char, (text.splitOn '.').head? = some (text.takeWhile (· ≠ '.')) := by
    intro text
    induction text with
    | nil => rfl
    | cons head tail ih =>
      rw [List.splitOn, splitOnP_cons_eq_if_modifyHead]
      by_cases hdot : head = '.'
      · simp [hdot]
      · rw [if_neg (by simpa using hdot), List.head?_modifyHead]
        rw [List.splitOn] at ih
        simp [ih, hdot]
  rw [RustStr.split, List.head?_map, hhead]
  rfl

theorem toLower_eq_dot {c : Char} : c.toLower = '.' ↔ c = '.' := by
  rw [← Char.toNat_inj, ← Char.toNat_inj, Utf8Text.toNat_toLower]
  have hdot : '.'.toNat = 46 := rfl
  split <;> omega

theorem isWhitespace_toLower (c : Char) :
    RustStr.isWhitespace c.toLower = RustStr.isWhitespace c := by
  simp only [RustStr.isWhitespace, Utf8Text.toNat_toLower]
  split
  · rw [Bool.eq_iff_iff]
    simp only [Bool.or_eq_true, Bool.and_eq_true, decide_eq_true_eq, beq_iff_eq]
    omega
  · rfl

theorem trimList_map_toLower (text : List Char) : RustStr.trimList (text.map Char.toLower) =
    (RustStr.trimList text).map Char.toLower := by
  have hblank : RustStr.isWhitespace ∘ Char.toLower = RustStr.isWhitespace :=
    funext isWhitespace_toLower
  rw [RustStr.trimList, dropWhile_map, hblank, ← map_reverse,
    dropWhile_map, hblank, ← map_reverse, RustStr.trimList]

/-- Names that agree up to case agree so up to their first dots. -/
theorem eqIgnoreAsciiCase_shortName {one two : String}
    (hsame : RustStr.eqIgnoreAsciiCase one two = true) :
    RustStr.eqIgnoreAsciiCase (shortName one) (shortName two) = true := by
  have hlower (name : String) : (shortName name).toList.map Char.toLower =
      RustStr.trimList ((name.toList.map Char.toLower).takeWhile (· ≠ '.')) := by
    have hdot : (fun c => decide (c ≠ '.')) ∘ Char.toLower = fun c => decide (c ≠ '.') := by
      funext c
      simp [toLower_eq_dot]
    rw [takeWhile_map, hdot, trimList_map_toLower]
    simp [shortName, RustStr.trim]
  simp only [RustStr.eqIgnoreAsciiCase, decide_eq_true_eq] at hsame ⊢
  rw [hlower, hlower, hsame]

/-- The check accepts exactly a clean exit that names the node. -/
theorem verifyRemoteHostnameOutput_eq_ok_iff {node : String}
    {reached : Endpoint} {res : ExecResult} :
    verifyRemoteHostnameOutput node reached res = .ok () ↔
      res.exitCode = some 0 ∧ ReportsNode node res.stdout := by
  have hok : res.ok = true ↔ res.exitCode = some 0 := by simp [ExecResult.ok]
  have hshort {name default : String} : RustStr.trim
      ((RustStr.split name '.').head?.getD default) = shortName name := by
    rw [head?_split_dot, Option.getD_some, shortName]
  unfold verifyRemoteHostnameOutput
  simp only [hshort]
  by_cases hclean : res.ok = true
  · have hexit := hok.mp hclean
    rw [if_neg (by simp [hclean])]
    set remote := RustStr.trim res.stdout
    constructor
    · intro hverify
      split at hverify
      next => cases hverify
      next haccepted =>
        simp only [Bool.or_eq_true, Bool.and_eq_true, Bool.not_eq_true',
          not_or, not_and, Bool.not_eq_false] at haccepted
        obtain ⟨hempty, hnamed⟩ := haccepted
        refine ⟨hexit, by simpa using hempty, ?_⟩
        by_cases hwhole : RustStr.eqIgnoreAsciiCase remote node = true
        · exact eqIgnoreAsciiCase_shortName hwhole
        · exact hnamed (by simpa using hwhole)
    · rintro ⟨-, hsome, hnamed⟩
      have hempty : (shortName remote).isEmpty = false := by simpa using hsome
      have hsame : RustStr.eqIgnoreAsciiCase (shortName remote) (shortName node) = true := hnamed
      simp [hempty, hsame]
  · have hexit : ¬res.exitCode = some 0 := fun hexit => hclean (hok.mpr hexit)
    simp [hclean, hexit]

end Identity

end Proxxx.Ssh
