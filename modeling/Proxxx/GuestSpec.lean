/-
Property strings of guest configurations, and the cloud-init profile that is
written with them.
-/
import Proxxx.RustStr

namespace Proxxx

/-- An `ipconfigN` value; pairs with other keys are kept in their order. -/
structure Ipconfig where
  ip : Option String
  gw : Option String
  ip6 : Option String
  gw6 : Option String
  extra : List (String × String)
deriving Repr, DecidableEq

def Ipconfig.empty : Ipconfig :=
  { ip := none, gw := none, ip6 := none, gw6 := none, extra := [] }

/-- One `key=value` token. -/
def Ipconfig.readToken (config : Ipconfig) (token : String) : Except String Ipconfig :=
  match RustStr.splitOnce token "=" with
  | none =>
    .error (s!"ipconfig token '{token}' missing '=' separator " ++ "(expected `key=value`)")
  | some (rawKey, rawValue) =>
    let key := RustStr.trim rawKey
    let value := RustStr.trim rawValue
    if key.isEmpty then .error s!"ipconfig token '{token}' has empty key"
    else if key = "ip" then .ok { config with ip := some value }
    else if key = "gw" then .ok { config with gw := some value }
    else if key = "ip6" then .ok { config with ip6 := some value }
    else if key = "gw6" then .ok { config with gw6 := some value }
    else .ok { config with extra := config.extra ++ [(key, value)] }

def Ipconfig.fromStr (text : String) : Except String Ipconfig :=
  if (RustStr.trim text).isEmpty then .ok .empty
  else (RustStr.split text ',').foldlM Ipconfig.readToken .empty

def Ipconfig.text (config : Ipconfig) : String :=
  let known := [("ip", config.ip), ("gw", config.gw), ("ip6", config.ip6),
    ("gw6", config.gw6)].filterMap fun field =>
      field.2.map fun value => (field.1, value)
  ",".intercalate ((known ++ config.extra).map fun pair =>
    pair.1 ++ "=" ++ pair.2)

structure CloudInitProfile where
  ciuser : Option String
  cipassword : Option String
  sshkey : Option String
  ipconfig0 : Option String
  searchdomain : Option String
  nameserver : Option String
deriving Repr, DecidableEq

/-- The configuration keys of a profile, in the order they are sent. -/
def CloudInitProfile.toParams (profile : CloudInitProfile) :
    Except String (List (String × String)) := do
  let keyed (key : String) (value : Option String) : List (String × String) :=
    value.toList.map fun text => (key, text)
  let ipconfig ← match profile.ipconfig0 with
    | none => pure []
    | some text => do
        let config ← Ipconfig.fromStr text
        pure [("ipconfig0", config.text)]
  return keyed "ciuser" profile.ciuser ++ keyed "cipassword" profile.cipassword ++
    keyed "sshkeys" profile.sshkey ++ ipconfig ++
    keyed "searchdomain" profile.searchdomain ++
    keyed "nameserver" profile.nameserver

end Proxxx
