/-
What the audit record of a mutation says of the request: the node and the guest
read out of the path, and the parameters written into one object.  The path is
read by a scan over all of its segments, in which a later segment can pass for
an announcement; the object holds one value under each key.
-/
import Proxxx.UrlPath

namespace Proxxx

open PercentUrl List

section LastNamed

variable {β : Type}

/-- The segments with the one behind each. -/
def adjacent (segments : List String) : List (String × String) :=
  segments.zip segments.tail

/-- Of all that is read out of adjacent segments, the last. -/
def lastNamed (read : String × String → Option β) (segments : List String) : Option β :=
  ((adjacent segments).filterMap read).getLast?

theorem foldl_or_eq {α : Type} (read : α → Option β) (init : Option β) (items : List α) :
    items.foldl (fun last item => (read item).or last) init =
      (items.filterMap read).getLast?.or init := by
  induction items generalizing init with
  | nil => rfl
  | cons item rest ih =>
    rw [foldl_cons, ih, filterMap_cons]
    cases read item with
    | none => rfl
    | some value =>
      rw [List.getLast?_cons]
      cases (rest.filterMap read).getLast? <;> rfl

variable {read : String × String → Option β} {first second : String}
  {segments : List String}

theorem lastNamed_cons_cons : lastNamed read (first :: second :: segments) =
    (lastNamed read (second :: segments)).or (read (first, second)) := by
  unfold lastNamed adjacent
  rw [tail_cons, zip_cons_cons, filterMap_cons, tail_cons]
  cases read (first, second) with
  | none => exact (Option.or_none).symm
  | some value =>
    rw [List.getLast?_cons]
    cases (((second :: segments).zip segments).filterMap read).getLast? <;> rfl

end LastNamed

/-- A segment behind `nodes`. -/
def namedNode (pair : String × String) : Option String :=
  if pair.1 = "nodes" then some pair.2 else none

/-- A number behind `qemu` or `lxc`. -/
def namedGuest (pair : String × String) : Option UInt32 :=
  if pair.1 = "qemu" ∨ pair.1 = "lxc" then
    (RustStr.parseUnsigned (2 ^ 32) pair.2).map UInt32.ofNat
  else none

/-- The segments of a path in front of its query, without the empty ones. -/
def pathSegmentsOf (path : String) : List String :=
  (RustStr.split ((RustStr.split path '?').headD path) '/').filter (!·.isEmpty)

/-- One step of the scan. -/
def scanPair (found : Option String × Option UInt32) (pair : String × String) :
    Option String × Option UInt32 :=
  ((namedNode pair).or found.1, (namedGuest pair).or found.2)

theorem foldl_scanPair (found : Option String × Option UInt32) (pairs : List (String × String)) :
    pairs.foldl scanPair found = ((pairs.filterMap namedNode).getLast?.or found.1,
        (pairs.filterMap namedGuest).getLast?.or found.2) := by
  rw [← foldl_or_eq, ← foldl_or_eq]
  induction pairs generalizing found with
  | nil => rfl
  | cons pair rest ih => exact ih (scanPair found pair)

/-- The scan finds what is announced last. -/
theorem parsePvePath_eq (path : String) :
    parsePvePath path = (lastNamed namedNode (pathSegmentsOf path),
      lastNamed namedGuest (pathSegmentsOf path)) := by
  have hfold := foldl_scanPair (none, none) (adjacent (pathSegmentsOf path))
  rw [Option.or_none, Option.or_none] at hfold
  refine .trans ?_ hfold
  unfold parsePvePath
  dsimp only [adjacent, pathSegmentsOf]
  congr 1
  funext ⟨node, vmid⟩ ⟨first, second⟩
  dsimp only [scanPair]
  split
  case h_4 hnodes hqemu hlxc =>
    have hkind : ¬ (first = "qemu" ∨ first = "lxc") := fun hkind => hkind.elim hqemu hlxc
    rw [namedNode, if_neg hnodes, namedGuest, if_neg hkind, Option.none_or, Option.none_or]
  all_goals simp [namedNode, namedGuest]

/-- The segments as they are written, without the empty ones. -/
def writtenSegments (parts : List PathPart) : List String :=
  (parts.map PathPart.text).filter (!·.isEmpty)

theorem pathSegmentsOf_render (request : RequestPath) :
    pathSegmentsOf request.render = writtenSegments request.parts := by
  let segments := request.parts.map fun part => part.text.toList
  have hplain : ∀ segment ∈ segments, ∀ c ∈ segment, breaksUrl c = false := by
    simp only [segments, forall_mem_map]
    exact fun part hpart => RequestPath.plain_part hpart
  have hmark : ∀ c ∈ joinSegments segments, (c == '?') = false := by
    intro c hc
    obtain ⟨segment, hsegment, hc⟩ := mem_flatMap.mp hc
    rcases mem_cons.mp hc with rfl | hc
    · rfl
    · simpa using (ne_of_breaksUrl (hplain segment hsegment c hc)).2.2.1
  have hslash : ∀ segment ∈ segments, ∀ c ∈ segment, (c == '/') = false := by
    intro segment hsegment c hc
    have hfree := (ne_of_breaksUrl (hplain segment hsegment c hc)).2.2.2
    simp only [isSlash, Bool.or_eq_false_iff] at hfree
    exact hfree.1
  have hpath : (RustStr.split request.render '?').headD request.render =
      String.ofList (joinSegments segments) := by
    rw [RustStr.split, List.splitOn, RequestPath.toList_render, queryText]
    split
    · rw [append_nil, splitOnP_eq_singleton hmark]
      rfl
    · rw [splitOnP_append_cons_of_forall_mem hmark '?' rfl]
      rfl
  have hsplit : RustStr.split (String.ofList (joinSegments segments)) '/' =
      "" :: request.parts.map PathPart.text := by
    rw [RustStr.split, List.splitOn, String.toList_ofList, ← nil_append (joinSegments segments),
      splitOnP_joinSegments rfl (by simp) hslash]
    simp [segments]
  rw [pathSegmentsOf, hpath, hsplit]
  rfl

/-- The guest a path behind its node is about: the number in the second segment,
where the first one is a kind of guest. -/
def guestOf : List PathPart → Option UInt32
  | kind :: vmid :: _ => namedGuest (kind.text, vmid.text)
  | _ => none

/-- The parts behind the kind of the guest, or behind `nodes` where the path is
about no guest. -/
def behindKind (node : String) (rest : List PathPart) : List PathPart :=
  if (guestOf rest).isSome then rest.tail else .segment node :: rest

/-- No later segment passes for an announcement of another node or guest. -/
structure Unambiguous (node : String) (rest : List PathPart) : Prop where
  named : node ≠ ""
  nodes : ∀ other,
    lastNamed namedNode (writtenSegments (.segment node :: rest)) = some other →
      other = urlencSegment node
  guests : ∀ other,
    lastNamed namedGuest (writtenSegments (behindKind node rest)) = some other →
      guestOf rest = some other

theorem guestOf_guest {kind : String} (hkind : kind = "qemu" ∨ kind = "lxc")
    (vmid : UInt32) (rest : List PathPart) :
    guestOf (.literal kind :: .literal (toString vmid.toNat) :: rest) = some vmid := by
  simp only [guestOf, PathPart.text, namedGuest, hkind, if_true]
  rw [RustStr.parseUnsigned_toString vmid.toNat_lt]
  simp

variable {node : String}

theorem isEmpty_urlencSegment (hnode : node ≠ "") : (urlencSegment node).isEmpty = false := by
  rw [← Bool.not_eq_true, String.isEmpty_iff]
  intro hempty
  have hnone : node.toUTF8.toList = [] := by
    rw [← decode_encode readable_segmentByte node.toUTF8.toList, ← toList_urlencSegment, hempty]
    rfl
  rw [toList_toUTF8, flatMap_eq_nil_iff] at hnone
  apply hnode
  rw [← String.toList_eq_nil_iff, eq_nil_iff_forall_not_mem]
  intro c hc
  have hsize := congrArg List.length (hnone c hc)
  rw [String.length_utf8EncodeChar] at hsize
  exact absurd hsize (Nat.ne_of_gt c.utf8Size_pos)

theorem writtenSegments_cons {part : PathPart} {parts : List PathPart}
    (hpart : part.text.isEmpty = false) :
    writtenSegments (part :: parts) = part.text :: writtenSegments parts := by
  rw [writtenSegments, map_cons, filter_cons, hpart]
  rfl

theorem writtenSegments_node {parts : List PathPart} (hnode : node ≠ "") :
    writtenSegments (.segment node :: parts) = urlencSegment node :: writtenSegments parts :=
  writtenSegments_cons (isEmpty_urlencSegment hnode)

/-- A node that is found is one of the segments. -/
theorem mem_of_lastNamed {segments : List String}
    (hnode : lastNamed namedNode segments = some node) : node ∈ segments := by
  obtain ⟨pair, hpair, hnamed⟩ := mem_filterMap.mp (List.mem_of_getLast? hnode)
  obtain ⟨-, ⟨⟩⟩ := Option.ite_none_right_eq_some.mp hnamed
  exact mem_of_mem_tail (of_mem_zip hpair).2

theorem or_some_eq_iff {α : Type} {found : Option α} {value : α} :
    found.or (some value) = some value ↔ ∀ other, found = some other → other = value := by
  cases found <;> simp

theorem isEmpty_of_namedGuest {kind vmid : String} {guest : UInt32}
    (hguest : namedGuest (kind, vmid) = some guest) :
    kind.isEmpty = false ∧ vmid.isEmpty = false := by
  obtain ⟨hkind, hnumber⟩ := Option.ite_none_right_eq_some.mp hguest
  constructor
  · rcases hkind with rfl | rfl <;> decide +kernel
  · rw [← Bool.not_eq_true, String.isEmpty_iff]
    rintro rfl
    cases hnumber

/-- The guest of a path, among the segments behind `nodes`. -/
theorem lastNamed_namedGuest_iff {rest : List PathPart} (hnode : node ≠ "") :
    lastNamed namedGuest (writtenSegments (.segment node :: rest)) = guestOf rest ↔
      ∀ other, lastNamed namedGuest (writtenSegments (behindKind node rest)) =
        some other → guestOf rest = some other := by
  cases hguest : guestOf rest with
  | none =>
    rw [behindKind, hguest]
    simp [Option.eq_none_iff_forall_ne_some]
  | some guest =>
    rcases rest with _ | ⟨kind, _ | ⟨vmid, tail⟩⟩
    · cases hguest
    · cases hguest
    · obtain ⟨hkind, hvmid⟩ := isEmpty_of_namedGuest hguest
      rw [behindKind, hguest, Option.isSome_some, if_pos rfl, tail_cons,
        writtenSegments_node hnode, writtenSegments_cons hkind,
        writtenSegments_cons hvmid, lastNamed_cons_cons, lastNamed_cons_cons]
      -- The pair of the kind and the number is found, unless a later one is.
      rw [show namedGuest (kind.text, vmid.text) = some guest from hguest]
      cases lastNamed namedGuest (vmid.text :: writtenSegments tail) with
      | none => simp
      | some other => simp [eq_comm]

/-- The record names the node and the guest of the path exactly where no later
segment passes for an announcement of another. -/
theorem parse_pve_path_attributes_iff (request : RequestPath) (node : String) (rest : List PathPart)
    (hparts : request.parts = .literal "nodes" :: .segment node :: rest) :
    parsePvePath request.render = (some (urlencSegment node), guestOf rest) ↔
      Unambiguous node rest := by
  rw [parsePvePath_eq, pathSegmentsOf_render, hparts, writtenSegments_cons (by decide +kernel)]
  by_cases hnode : node = ""
  · subst hnode
    refine iff_of_false (fun hfound => ?_) (fun hclear => hclear.named rfl)
    have hmem := mem_of_lastNamed (congrArg Prod.fst hfound)
    have hempty : (urlencSegment "").isEmpty = true := by decide +kernel
    rcases mem_cons.mp hmem with hfirst | hlater
    · rw [hfirst] at hempty
      exact absurd hempty (by decide +kernel)
    · simp only [writtenSegments, mem_filter, hempty] at hlater
      exact absurd hlater.2 (by decide)
  · have hguests := @lastNamed_namedGuest_iff node rest hnode
    have hnodes := @or_some_eq_iff _ (lastNamed namedNode
      (writtenSegments (.segment node :: rest))) (urlencSegment node)
    rw [writtenSegments_node hnode] at hguests hnodes
    rw [PathPart.text, writtenSegments_node hnode, Prod.mk.injEq,
      lastNamed_cons_cons, lastNamed_cons_cons]
    have hnone : namedGuest ("nodes", urlencSegment node) = none := rfl
    have hfirst : namedNode ("nodes", urlencSegment node) = some (urlencSegment node) := rfl
    rw [hnone, Option.or_none, hfirst, hguests, hnodes]
    constructor
    · rintro ⟨hclear, hguest⟩
      exact ⟨hnode, by rwa [writtenSegments_node hnode], hguest⟩
    · intro hclear
      have hnodesClear := hclear.nodes
      rw [writtenSegments_node hnode] at hnodesClear
      exact ⟨hnodesClear, hclear.guests⟩

theorem literalChar_toString (number : Nat) :
    ∀ c ∈ (toString number).toList, literalChar c = true := by
  intro c hc
  simp [literalChar, Char.isAlphanum, RustStr.isDigit_of_mem_toString hc]

/-- The parts of a rollback behind the node. -/
def rollbackParts (vmid : UInt32) (name : String) : List PathPart :=
  [.literal "qemu", .literal (toString vmid.toNat), .literal "snapshot",
    .segment name, .literal "rollback"]

theorem plain_rollbackParts {node name text : String} {vmid : UInt32}
    (htext : .literal text ∈ .literal "nodes" :: .segment node :: rollbackParts vmid name) :
    ∀ c ∈ text.toList, literalChar c = true := by
  simp only [rollbackParts, mem_cons, PathPart.literal.injEq, reduceCtorEq,
    not_mem_nil, or_false, false_or] at htext
  rcases htext with rfl | rfl | rfl | rfl | rfl
  case inr.inr.inl => exact literalChar_toString _
  all_goals exact all_eq_true.mp (by decide +kernel)

/-- The path of `rollback_snapshot` for a virtual machine. -/
def rollbackPath (node : String) (vmid : UInt32) (name : String) : RequestPath where
  parts := .literal "nodes" :: .segment node :: rollbackParts vmid name
  query := []
  plainParts := fun _ => plain_rollbackParts
  plainNames := by simp

section Params

variable (texts : AuditTexts)

/-- The name a parameter is recorded under. -/
def recordedKey (key : String) : String :=
  if key == "profile" then "_form_profile" else key

/-- The object that is written as the parameters of a record. -/
def redactedParams (params : List (String × String)) (profileLabel : String) :
    List (String × String) :=
  params.foldl (fun map (key, value) =>
      insertParam map (recordedKey key) (redactParamValue texts key value))
    [("profile", profileLabel)]

/-- The object says that a key was sent with a value.  What stands under
`_form_profile` was sent as `profile`. -/
def TellsParam (object : List (String × String)) (key value : String) : Prop :=
  key ≠ "_form_profile" ∧ object.lookup (recordedKey key) = some value

/-- The object tells the profile and exactly the parameters that were sent, each
with its redacted value. -/
def TellsParams (params : List (String × String)) (profileLabel : String)
    (object : List (String × String)) : Prop :=
  object.lookup "profile" = some profileLabel ∧ ∀ key value, TellsParam object key value ↔
      ∃ sent, (key, sent) ∈ params ∧ redactParamValue texts key sent = value

/-- No parameter has the name that stands for another, and parameters of one name
are alike once redacted. -/
structure CollisionFree (params : List (String × String)) : Prop where
  names : ∀ param ∈ params, param.1 ≠ "_form_profile"
  values : ∀ one ∈ params, ∀ two ∈ params, one.1 = two.1 →
    redactParamValue texts one.1 one.2 = redactParamValue texts two.1 two.2

variable {texts}

theorem lookup_cons_eq_ite (name stored other : String) (map : List (String × String)) :
    ((name, stored) :: map).lookup other =
      if other = name then some stored else map.lookup other := by
  by_cases hname : other = name
  · simp [hname]
  · rw [List.lookup_cons, beq_eq_false_iff_ne.mpr hname, if_neg hname]

theorem lookup_map_replace (map : List (String × String)) (key value other : String) :
    (map.map fun entry => if entry.1 == key then (key, value) else entry).lookup other =
      if other = key then (map.lookup key).map fun _ => value
      else map.lookup other := by
  induction map with
  | nil => simp
  | cons entry rest ih =>
    obtain ⟨name, stored⟩ := entry
    rw [map_cons, lookup_cons_eq_ite, lookup_cons_eq_ite]
    by_cases hname : name = key
    · subst hname
      rw [beq_self_eq_true, if_pos rfl, lookup_cons_eq_ite, ih]
      by_cases hother : other = name <;> simp [hother]
    · rw [beq_eq_false_iff_ne.mpr hname, if_neg Bool.false_ne_true,
        lookup_cons_eq_ite, ih, if_neg (Ne.symm hname)]
      by_cases hother : other = key <;> simp [hother, Ne.symm hname]

theorem lookup_insertParam (map : List (String × String)) (key value other : String) :
    (insertParam map key value).lookup other =
      if other = key then some value else map.lookup other := by
  unfold insertParam
  split
  · rename_i hstored
    obtain ⟨entry, hentry, hkey⟩ := any_eq_true.mp hstored
    obtain ⟨stored, hlookup⟩ := Option.isSome_iff_exists.mp
      (lookup_isSome_iff.mpr ⟨entry, hentry, (BEq.comm).trans hkey⟩)
    rw [lookup_map_replace, hlookup]
    rfl
  · rename_i hfresh
    have hnone : map.lookup key = none := by
      rw [lookup_eq_none_iff]
      intro entry hentry
      rw [bne_iff_ne, ne_comm]
      simpa using any_eq_false.mp (Bool.eq_false_iff.mpr hfresh) entry hentry
    rw [List.lookup_append, lookup_cons_eq_ite, lookup_nil]
    by_cases hother : other = key <;> simp [hother, hnone]

theorem recordedKey_ne_profile (key : String) : recordedKey key ≠ "profile" := by
  unfold recordedKey
  split
  · decide
  · rename_i hkey
    simpa using hkey

theorem recordedKey_inj {one two : String} (hone : one ≠ "_form_profile")
    (htwo : two ≠ "_form_profile")
    (hsame : recordedKey one = recordedKey two) : one = two := by
  unfold recordedKey at hsame
  split at hsame <;> split at hsame <;> simp_all

/-- What a parameter leaves under a key. -/
def readUnder (texts : AuditTexts) (key : String) (param : String × String) : Option String :=
  if recordedKey param.1 = key then
    some (redactParamValue texts param.1 param.2)
  else none

/-- Under a key stands the value of the last parameter recorded there. -/
theorem lookup_redactedParams (params : List (String × String)) (profileLabel key : String) :
    (redactedParams texts params profileLabel).lookup key =
      (params.filterMap (readUnder texts key)).getLast?.or
        ([("profile", profileLabel)].lookup key) := by
  rw [← foldl_or_eq, redactedParams]
  generalize [("profile", profileLabel)] = object
  induction params generalizing object with
  | nil => rfl
  | cons param rest ih =>
    rw [foldl_cons, foldl_cons, ih, lookup_insertParam, readUnder]
    by_cases hkey : recordedKey param.1 = key <;> simp [hkey, @eq_comm _ key]

theorem lookup_profile (params : List (String × String)) (profileLabel : String) :
    (redactedParams texts params profileLabel).lookup "profile" = some profileLabel := by
  have hnone : params.filterMap (readUnder texts "profile") = [] := by
    rw [filterMap_eq_nil_iff]
    exact fun param _ => if_neg (recordedKey_ne_profile param.1)
  rw [lookup_redactedParams, hnone]
  rfl

variable {params : List (String × String)}

theorem tellsParam_iff {profileLabel key value : String} (hkey : key ≠ "_form_profile") :
    TellsParam (redactedParams texts params profileLabel) key value ↔
      (params.filterMap (readUnder texts (recordedKey key))).getLast? = some value := by
  have hother : [("profile", profileLabel)].lookup (recordedKey key) = none := by
    rw [lookup_cons_eq_ite, if_neg (recordedKey_ne_profile key)]
    rfl
  rw [TellsParam, lookup_redactedParams, hother, Option.or_none]
  exact and_iff_right hkey

theorem mem_of_readUnder {key value : String} (hnames : ∀ param ∈ params, param.1 ≠ "_form_profile")
    (hkey : key ≠ "_form_profile")
    (hvalue : value ∈ params.filterMap (readUnder texts (recordedKey key))) :
    ∃ sent, (key, sent) ∈ params ∧ redactParamValue texts key sent = value := by
  obtain ⟨⟨name, sent⟩, hparam, hread⟩ := mem_filterMap.mp hvalue
  obtain ⟨hsame, ⟨⟩⟩ := Option.ite_none_right_eq_some.mp hread
  obtain rfl := recordedKey_inj (hnames _ hparam) hkey hsame
  exact ⟨sent, hparam, rfl⟩

/-- The object of a record tells what was sent exactly where no two parameters
collide in it. -/
theorem redacted_params_tell_iff (texts : AuditTexts)
    (params : List (String × String)) (profileLabel : String) :
    TellsParams texts params profileLabel (redactedParams texts params profileLabel) ↔
      CollisionFree texts params := by
  constructor
  · rintro ⟨-, htells⟩
    constructor
    · intro param hparam
      exact ((htells param.1 _).mpr ⟨param.2, hparam, rfl⟩).1
    · rintro ⟨key, first⟩ hone ⟨_, second⟩ htwo rfl
      have hfirst := (htells key _).mpr ⟨first, hone, rfl⟩
      have hsecond := (htells key _).mpr ⟨second, htwo, rfl⟩
      exact Option.some.inj (hfirst.2.symm.trans hsecond.2)
  · rintro ⟨hnames, hvalues⟩
    refine ⟨lookup_profile params profileLabel, fun key value => ?_⟩
    constructor
    · intro htells
      have hlast := (tellsParam_iff htells.1).mp htells
      exact mem_of_readUnder hnames htells.1 (List.mem_of_getLast? hlast)
    · rintro ⟨sent, hsent, rfl⟩
      have hkey := hnames _ hsent
      have hread : redactParamValue texts key sent ∈
          params.filterMap (readUnder texts (recordedKey key)) :=
        mem_filterMap.mpr ⟨_, hsent, if_pos rfl⟩
      obtain ⟨last, hlast⟩ : ∃ last, (params.filterMap
          (readUnder texts (recordedKey key))).getLast? = some last :=
        ⟨_, List.getLast?_eq_some_getLast (ne_nil_of_mem hread)⟩
      obtain ⟨other, hother, hsame⟩ := mem_of_readUnder hnames hkey (List.mem_of_getLast? hlast)
      rw [tellsParam_iff hkey, hlast, ← hsame, hvalues _ hother _ hsent rfl]

end Params

namespace AuditRecordWitness

theorem rollback_unambiguous : Unambiguous "pve1" (rollbackParts 100 "before-upgrade") := by
  have hnodes : lastNamed namedNode (writtenSegments
      (.segment "pve1" :: rollbackParts 100 "before-upgrade")) = none := by
    decide +kernel
  have hguests : lastNamed namedGuest (writtenSegments
      (behindKind "pve1" (rollbackParts 100 "before-upgrade"))) = none := by
    decide +kernel
  constructor
  · decide
  · simp [hnodes]
  · simp [hguests]

/-- The rollback of an ordinary snapshot is put down to its node and guest. -/
theorem rollback_attributed : guestOf (rollbackParts 100 "before-upgrade") = some 100 ∧
    parsePvePath (rollbackPath "pve1" 100 "before-upgrade").render = (some (urlencSegment "pve1"),
        guestOf (rollbackParts 100 "before-upgrade")) :=
  ⟨guestOf_guest (.inl rfl) 100 _,
    (parse_pve_path_attributes_iff (rollbackPath "pve1" 100 "before-upgrade")
      "pve1" _ rfl).mpr rollback_unambiguous⟩

/-- The rollback of a snapshot called `nodes` is put down to a node called
`rollback`. -/
theorem rollback_misattributed : (rollbackPath "pve1" 100 "nodes").render =
      "/nodes/pve1/qemu/100/snapshot/nodes/rollback" ∧
    parsePvePath (rollbackPath "pve1" 100 "nodes").render = (some "rollback", some 100) := by
  decide +kernel

def plainTexts : AuditTexts where
  scrubSecrets := id
  renderObject := fun _ => "\x7b\x7d"

/-- Of a matcher's two fields only the last is recorded. -/
theorem matcher_fields_lost : redactedParams plainTexts [("match-field", "exact:type=vzdump"),
        ("match-field", "exact:hostname=pve1")] "prod" =
      [("profile", "prod"), ("match-field", "exact:hostname=pve1")] ∧
    ¬ TellsParams plainTexts [("match-field", "exact:type=vzdump"),
        ("match-field", "exact:hostname=pve1")] "prod"
      (redactedParams plainTexts [("match-field", "exact:type=vzdump"),
          ("match-field", "exact:hostname=pve1")] "prod") := by
  refine ⟨by decide +kernel, ?_⟩
  rintro ⟨-, htells⟩
  have hfirst := (htells "match-field" "exact:type=vzdump").mpr
    ⟨"exact:type=vzdump", mem_cons_self, by decide +kernel⟩
  exact absurd hfirst.2 (by decide +kernel)

end AuditRecordWitness

end Proxxx
