/-
Updates of pools.  The members that vanish are removed and the new ones added,
each in one request that lists the guests by their ids and the storages by
their names.  References of other kinds are dropped, so the pool ends with the
declared references of the known kinds, if each of them names something of its
kind.
-/
import Proxxx.StateUpdates

namespace Proxxx

open FieldStore KeyedDiff RustStr List

section References

def guestRef (kind : GuestType) (vmid : UInt32) : String :=
  kind.text ++ "/" ++ toString vmid

def storageRef (name : String) : String :=
  "storage/" ++ name

/-- The id in a reference to a guest. -/
def guestId (member : String) : Option String :=
  (RustStr.stripPrefix member "qemu/").or (RustStr.stripPrefix member "lxc/")

/-- The name in a reference to a storage. -/
def storageName (member : String) : Option String :=
  match guestId member with
  | some _ => none
  | none => RustStr.stripPrefix member "storage/"

/-- A reference of a known kind. -/
def IsReference (member : String) : Prop :=
  (guestId member).isSome = true ∨ (storageName member).isSome = true

/-- A reference names a guest of its kind or a storage. -/
def PveStore.Refers (store : PveStore) (member : String) : Prop :=
  (∃ kind vmid, store.guests.get vmid = some kind ∧ member = guestRef kind vmid) ∨
  ∃ name, (store.storages.get name).isSome = true ∧ member = storageRef name

variable {member id name : String} {kind other : GuestType}
variable {vmid second : UInt32}

theorem toString_vmid_injective : Function.Injective fun vmid : UInt32 => toString vmid := by
  intro one two hsame
  have hone := parseUnsigned_toString one.toNat_lt
  have htwo := parseUnsigned_toString two.toNat_lt
  have htexts : toString one.toNat = toString two.toNat := hsame
  rw [htexts, htwo] at hone
  exact UInt32.toNat_inj.mp (Option.some.inj hone).symm

theorem plain_vmid : toString vmid ≠ "" ∧ ',' ∉ (toString vmid).toList := by
  change toString vmid.toNat ≠ "" ∧ ',' ∉ (toString vmid.toNat).toList
  refine ⟨by simp, fun hcomma => ?_⟩
  exact absurd (RustStr.isDigit_of_mem_toString hcomma) (by decide)

theorem stripPrefix_qemu_lxc : RustStr.stripPrefix ("lxc/" ++ id) "qemu/" = none := by
  simp [RustStr.stripPrefix, RustStr.startsWith]

theorem guestId_storageRef : guestId (storageRef name) = none := by
  simp [guestId, storageRef, RustStr.stripPrefix, RustStr.startsWith]

theorem guestId_eq_some : guestId member = some id ↔
    member = "qemu/" ++ id ∨ member = "lxc/" ++ id := by
  rw [guestId, Option.or_eq_some_iff, stripPrefix_eq_some, stripPrefix_eq_some]
  constructor
  · rintro (hqemu | ⟨-, hlxc⟩)
    · exact .inl hqemu
    · exact .inr hlxc
  · rintro (hqemu | rfl)
    · exact .inl hqemu
    · exact .inr ⟨stripPrefix_qemu_lxc, rfl⟩

theorem storageName_eq_some : storageName member = some name ↔ member = storageRef name := by
  cases hid : guestId member with
  | some id =>
    rw [storageName, hid]
    constructor
    · nofun
    · rintro rfl
      rw [guestId_storageRef] at hid
      cases hid
  | none =>
    rw [storageName, hid]
    exact stripPrefix_eq_some

theorem guestId_guestRef : guestId (guestRef kind vmid) = some (toString vmid) := by
  rw [guestId_eq_some]
  cases kind with
  | qemu => exact .inl rfl
  | lxc => exact .inr rfl

theorem exists_guestRef_of_guestId (hid : guestId member = some (toString vmid)) :
    ∃ kind, member = guestRef kind vmid := by
  rcases guestId_eq_some.mp hid with hqemu | hlxc
  · exact ⟨.qemu, hqemu⟩
  · exact ⟨.lxc, hlxc⟩

theorem guestRef_ne_storageRef : guestRef kind vmid ≠ storageRef name := by
  intro hsame
  have hid : guestId (guestRef kind vmid) = some (toString vmid) := guestId_guestRef
  rw [hsame, guestId_storageRef] at hid
  cases hid

theorem guestRef_inj (hsame : guestRef kind vmid = guestRef other second) :
    kind = other ∧ vmid = second := by
  have hid : guestId (guestRef kind vmid) = some (toString second) := by
    rw [hsame, guestId_guestRef]
  rw [guestId_guestRef, Option.some.injEq] at hid
  have hvmid := toString_vmid_injective hid
  subst hvmid
  refine ⟨?_, rfl⟩
  cases kind <;> cases other <;> first | rfl | simp [guestRef, GuestType.text] at hsame

theorem storageRef_inj {second : String}
    (hsame : storageRef name = storageRef second) : name = second := by
  have hname := storageName_eq_some.mpr hsame
  rw [storageName_eq_some.mpr rfl] at hname
  exact Option.some.inj hname

end References

namespace PveStore

section Requests

variable {store : PveStore} {members texts : List String} {member : String}
variable {kind : GuestType} {vmid : UInt32} {name : String}

/-- Every reference of a known kind names something of its kind. -/
def AllRefer (store : PveStore) (members : List String) : Prop :=
  ∀ member ∈ members, IsReference member → store.Refers member

theorem AllRefer.guest (hrefer : store.AllRefer members) {id : String}
    (hmember : member ∈ members) (hid : guestId member = some id) :
    ∃ kind vmid, store.guests.get vmid = some kind ∧
      member = guestRef kind vmid ∧ toString vmid = id := by
  rcases hrefer member hmember (.inl (by simp [hid])) with
    ⟨kind, vmid, hguest, rfl⟩ | ⟨name, -, rfl⟩
  · rw [guestId_guestRef, Option.some.injEq] at hid
    exact ⟨kind, vmid, hguest, rfl, hid⟩
  · rw [guestId_storageRef] at hid
    cases hid

theorem AllRefer.storage (hrefer : store.AllRefer members) (hmember : storageRef name ∈ members) :
    (store.storages.get name).isSome = true := by
  have hreference : IsReference (storageRef name) := .inr (by rw [storageName_eq_some.mpr rfl]; rfl)
  rcases hrefer _ hmember hreference with
    ⟨kind, vmid, -, hsame⟩ | ⟨other, hstorage, hsame⟩
  · exact absurd hsame.symm guestRef_ne_storageRef
  · rwa [storageRef_inj hsame]

/-- A guest is referred to by its own kind. -/
theorem AllRefer.ownKind (hrefer : store.AllRefer members)
    (hmember : guestRef kind vmid ∈ members) :
    store.guests.get vmid = some kind := by
  obtain ⟨other, second, hguest, hsame, -⟩ := hrefer.guest hmember guestId_guestRef
  obtain ⟨rfl, rfl⟩ := guestRef_inj hsame
  exact hguest

/-- A list with commas that is only sent if it is not empty arrives. -/
theorem flatMap_split_join (hplain : ∀ text ∈ texts, text ≠ "" ∧ ',' ∉ text.toList) :
    (if RustStr.join texts ',' = "" then [] else [RustStr.join texts ',']).flatMap
      (RustStr.split · ',') = texts := by
  cases texts with
  | nil => rfl
  | cons head tail =>
    have hsplit : RustStr.split (RustStr.join (head :: tail) ',') ',' = head :: tail :=
      split_join (fun text htext => (hplain text htext).2) (cons_ne_nil head tail)
    have hjoin : RustStr.join (head :: tail) ',' ≠ "" := by
      intro hempty
      rw [hempty] at hsplit
      have hhead : head = "" := by
        have hsingle : RustStr.split "" ',' = [""] := by decide +kernel
        rw [hsingle] at hsplit
        exact (List.cons.inj hsplit).1.symm
      exact (hplain head mem_cons_self).1 hhead
    rw [if_neg hjoin, flatMap_singleton, hsplit]

theorem memberParams_eq : memberParams members =
    pushOptional "vms" (RustStr.join (members.filterMap guestId) ',') ++
    pushOptional "storage" (RustStr.join (members.filterMap storageName) ',') := rfl

theorem listed_vms (hrefer : store.AllRefer members) :
    listed "vms" (memberParams members) = members.filterMap guestId := by
  have hvalues : values "vms" (memberParams members) =
      if RustStr.join (members.filterMap guestId) ',' = "" then []
      else [RustStr.join (members.filterMap guestId) ','] := by simp [memberParams_eq]
  rw [listed, hvalues]
  apply flatMap_split_join
  intro text htext
  obtain ⟨member, hmember, hid⟩ := mem_filterMap.mp htext
  obtain ⟨kind, vmid, -, -, rfl⟩ := hrefer.guest hmember hid
  exact plain_vmid

theorem listed_storage (hrefer : store.AllRefer members) : listed "storage" (memberParams members) =
    members.filterMap storageName := by
  have hvalues : values "storage" (memberParams members) =
      if RustStr.join (members.filterMap storageName) ',' = "" then []
      else [RustStr.join (members.filterMap storageName) ','] := by simp [memberParams_eq]
  rw [listed, hvalues]
  apply flatMap_split_join
  intro text htext
  obtain ⟨member, hmember, hname⟩ := mem_filterMap.mp htext
  rw [storageName_eq_some] at hname
  rw [hname] at hmember
  obtain ⟨fields, hfields⟩ := Option.isSome_iff_exists.mp (hrefer.storage hmember)
  exact store.plainNames text (mem_map.mpr ⟨_, Collection.get_eq_some.mp hfields, rfl⟩)

/-- The server finds the guest an id is written for. -/
theorem guestWritten_toString (hguest : store.guests.get vmid = some kind) :
    store.guestWritten (toString vmid) = .ok vmid := by
  have hobject := Collection.get_eq_some.mp hguest
  have hfound : (store.guests.objects.find? fun guest =>
      toString guest.1 = toString vmid).isSome = true := by
    rw [List.find?_isSome]
    exact ⟨_, hobject, by simp⟩
  obtain ⟨found, hfind⟩ := Option.isSome_iff_exists.mp hfound
  have hsame : toString found.1 = toString vmid := by simpa using List.find?_some hfind
  rw [guestWritten, hfind]
  exact congrArg Except.ok (toString_vmid_injective hsame)

/-- The guests the server makes of the listed ids. -/
theorem mapM_guestWritten (hguests : ∀ text ∈ texts, ∃ kind vmid,
      store.guests.get vmid = some kind ∧ toString vmid = text) :
    ∃ guests, texts.mapM store.guestWritten = .ok guests ∧
      guests.map (fun vmid : UInt32 => toString vmid) = texts := by
  induction texts with
  | nil => exact ⟨[], rfl, rfl⟩
  | cons head tail ih =>
    obtain ⟨⟨kind, vmid, hguest, rfl⟩, htail⟩ := forall_mem_cons.mp hguests
    obtain ⟨guests, hguests, hsame⟩ := ih htail
    refine ⟨vmid :: guests, ?_, ?_⟩
    · rw [mapM_cons, guestWritten_toString hguest, hguests]
      rfl
    · rw [map_cons, hsame]

/-- What the server reads in the request for members. -/
theorem read_members (params : Params) (hrefer : store.AllRefer members)
    (hvms : listed "vms" params = listed "vms" (memberParams members))
    (hstorage : listed "storage" params = listed "storage" (memberParams members)) :
    ∃ guests storages, (listed "vms" params).mapM store.guestWritten = .ok guests ∧
      (listed "storage" params).mapM store.storageWritten = .ok storages ∧
      (∀ vmid, vmid ∈ guests ↔ ∃ kind, guestRef kind vmid ∈ members) ∧
      ∀ name, name ∈ storages ↔ storageRef name ∈ members := by
  rw [hvms, hstorage, listed_vms hrefer, listed_storage hrefer]
  have hexist : ∀ text ∈ members.filterMap guestId, ∃ kind vmid,
      store.guests.get vmid = some kind ∧ toString vmid = text := by
    intro text htext
    obtain ⟨member, hmember, hid⟩ := mem_filterMap.mp htext
    obtain ⟨kind, vmid, hguest, -, hvmid⟩ := hrefer.guest hmember hid
    exact ⟨kind, vmid, hguest, hvmid⟩
  have hwritten : ∀ name ∈ members.filterMap storageName,
      store.storageWritten name = .ok (id name) := by
    intro name hname
    obtain ⟨member, hmember, hstored⟩ := mem_filterMap.mp hname
    rw [storageName_eq_some.mp hstored] at hmember
    obtain ⟨fields, hfields⟩ := Option.isSome_iff_exists.mp (hrefer.storage hmember)
    rw [storageWritten, hfields]
    rfl
  obtain ⟨guests, hguests, hsame⟩ := mapM_guestWritten hexist
  have hstorages := mapM_eq_ok hwritten
  rw [map_id] at hstorages
  refine ⟨guests, members.filterMap storageName, hguests, hstorages, ?_, ?_⟩
  · intro vmid
    rw [← mem_map_of_injective toString_vmid_injective, hsame, mem_filterMap]
    constructor
    · rintro ⟨member, hmember, hid⟩
      obtain ⟨kind, rfl⟩ := exists_guestRef_of_guestId hid
      exact ⟨kind, hmember⟩
    · rintro ⟨kind, hmember⟩
      exact ⟨_, hmember, guestId_guestRef⟩
  · intro name
    rw [mem_filterMap]
    constructor
    · rintro ⟨member, hmember, hname⟩
      rwa [storageName_eq_some.mp hname] at hmember
    · intro hmember
      exact ⟨_, hmember, storageName_eq_some.mpr rfl⟩

/-- A request for a pool leaves the guests and the storages. -/
theorem perform_updatePool_frame {poolid : String} {params : Params} {next : PveStore}
    (hperform : store.perform (.updatePool poolid params) = .ok next) :
    next.guests = store.guests ∧ next.storages = store.storages := by
  cases hpool : store.pools.get poolid with
  | none => simp [perform, hpool] at hperform
  | some pool =>
    simp only [perform, hpool] at hperform
    obtain ⟨guests, -, hrest⟩ := bind_eq_ok hperform
    obtain ⟨storages, -, hdone⟩ := bind_eq_ok hrest
    cases hdone
    exact ⟨rfl, rfl⟩

end Requests

section Members

variable {base store : PveStore} {pool : StoredPool} {poolid : String}
variable {members : List String} {member : String}

/-- What a pool has, as references. -/
def PoolHas (store : PveStore) (pool : StoredPool) (member : String) : Prop :=
  (∃ kind vmid, vmid ∈ pool.guests ∧ store.guests.get vmid = some kind ∧
    member = guestRef kind vmid) ∨
  ∃ name ∈ pool.storages, (store.storages.get name).isSome = true ∧ member = storageRef name

theorem PoolHas.refers (hhas : store.PoolHas pool member) : store.Refers member := by
  rcases hhas with ⟨kind, vmid, -, hguest, hmember⟩ | ⟨name, -, hrest⟩
  · exact .inl ⟨kind, vmid, hguest, hmember⟩
  · exact .inr ⟨name, hrest⟩

theorem Refers.isReference (hrefers : store.Refers member) : IsReference member := by
  rcases hrefers with ⟨kind, vmid, -, rfl⟩ | ⟨name, -, rfl⟩
  · exact .inl (by simp [guestId_guestRef])
  · exact .inr (by simp [storageName_eq_some.mpr rfl])

/-- Where the store stands in the course of an update of a pool. -/
structure PoolAt (base store : PveStore) (poolid : String) (pool : StoredPool) : Prop where
  guests : store.guests = base.guests
  storages : store.storages = base.storages
  pool : store.pools.get poolid = some pool

section During

variable (hat : PoolAt base store poolid pool)
include hat

theorem AllRefer.during (hrefer : base.AllRefer members) : store.AllRefer members := by
  intro member hmember hreference
  have hrefers := hrefer member hmember hreference
  rwa [Refers, ← hat.guests, ← hat.storages] at hrefers

theorem run_request {params : Params}
    {guests : List UInt32} {storages : List String}
    (hguests : (listed "vms" params).mapM store.guestWritten = .ok guests)
    (hstorages : (listed "storage" params).mapM store.storageWritten = .ok storages) :
    ∃ next, store.run [.updatePool poolid params] = .ok next ∧
      PoolAt base next poolid (pool.update params guests storages) := by
  have hperform : store.perform (.updatePool poolid params) = .ok { store with
      pools := store.pools.modify poolid (·.update params guests storages) } := by
    simp only [perform, hat.pool, hguests, hstorages]
    rfl
  refine ⟨_, run_singleton hperform, hat.guests, hat.storages, ?_⟩
  rw [Collection.get_modify, if_pos rfl, hat.pool]
  rfl

/-- The calls leave the pool with this comment and these references. -/
def LeadsTo (base store : PveStore) (poolid : String) (calls : List WriteCall)
    (comment : String) (has : String → Prop) : Prop :=
  ∃ next pool, store.run calls = .ok next ∧ PoolAt base next poolid pool ∧
    pool.comment = comment ∧ ∀ member, base.PoolHas pool member ↔ has member

/-- The request that removes members, which is left out if there are none. -/
theorem run_removal (hrefer : base.AllRefer members) :
    base.LeadsTo store poolid (if members = [] then []
        else [.updatePool poolid (("delete", "1") :: memberParams members)]) pool.comment
      fun member => base.PoolHas pool member ∧ member ∉ members := by
  by_cases hempty : members = []
  · rw [if_pos hempty]
    exact ⟨store, pool, rfl, hat, rfl, by simp [hempty]⟩
  rw [if_neg hempty]
  obtain ⟨guests, storages, hguests, hstorages, hvmids, hnames⟩ :=
    read_members (("delete", "1") :: memberParams members)
      (hrefer.during hat) (by simp [listed]) (by simp [listed])
  obtain ⟨next, hrun, hnext⟩ := run_request hat hguests hstorages
  have hleft : pool.update (("delete", "1") :: memberParams members) guests storages =
        { comment := pool.comment, guests := pool.guests.filter (· ∉ guests)
          storages := pool.storages.filter (· ∉ storages) } := by
    simp [StoredPool.update, memberParams_eq]
  rw [hleft] at hnext
  refine ⟨next, _, hrun, hnext, rfl, ?_⟩
  intro member
  simp only [PoolHas, mem_filter, decide_eq_true_eq, hvmids, hnames]
  constructor
  · rintro (⟨kind, vmid, ⟨hmem, hkept⟩, hguest, rfl⟩ |
      ⟨name, ⟨hmem, hkept⟩, hstorage, rfl⟩)
    · exact ⟨.inl ⟨kind, vmid, hmem, hguest, rfl⟩, fun hremoved => hkept ⟨kind, hremoved⟩⟩
    · exact ⟨.inr ⟨name, hmem, hstorage, rfl⟩, hkept⟩
  · rintro ⟨⟨kind, vmid, hmem, hguest, rfl⟩ | ⟨name, hmem, hstorage, rfl⟩, hkept⟩
    · refine .inl ⟨kind, vmid, ⟨hmem, ?_⟩, hguest, rfl⟩
      rintro ⟨other, hremoved⟩
      have hother := hrefer.ownKind hremoved
      rw [hguest, Option.some.injEq] at hother
      exact hkept (hother ▸ hremoved)
    · exact .inr ⟨name, ⟨hmem, hkept⟩, hstorage, rfl⟩

/-- The request that adds members. -/
theorem run_addition (hrefer : base.AllRefer members) :
    base.LeadsTo store poolid (if members = [] then []
        else [.updatePool poolid (memberParams members)]) pool.comment
      fun member => base.PoolHas pool member ∨ member ∈ members ∧ IsReference member := by
  by_cases hempty : members = []
  · rw [if_pos hempty]
    exact ⟨store, pool, rfl, hat, rfl, by simp [hempty]⟩
  rw [if_neg hempty]
  obtain ⟨guests, storages, hguests, hstorages, hvmids, hnames⟩ :=
    read_members (memberParams members) (hrefer.during hat) rfl rfl
  obtain ⟨next, hrun, hnext⟩ := run_request hat hguests hstorages
  have hfull : pool.update (memberParams members) guests storages =
      { comment := pool.comment, guests := pool.guests ∪ guests
        storages := pool.storages ∪ storages } := by simp [StoredPool.update, memberParams_eq]
  rw [hfull] at hnext
  refine ⟨next, _, hrun, hnext, rfl, ?_⟩
  intro member
  simp only [PoolHas, mem_union_iff, hvmids, hnames]
  constructor
  · rintro (⟨kind, vmid, hmem | ⟨other, hadded⟩, hguest, rfl⟩ |
      ⟨name, hmem | hadded, hstorage, rfl⟩)
    · exact .inl (.inl ⟨kind, vmid, hmem, hguest, rfl⟩)
    · have hother := hrefer.ownKind hadded
      rw [hguest, Option.some.injEq] at hother
      rw [← hother] at hadded
      exact .inr ⟨hadded, .inl (by simp [guestId_guestRef])⟩
    · exact .inl (.inr ⟨name, hmem, hstorage, rfl⟩)
    · exact .inr ⟨hadded, .inr (by simp [storageName_eq_some.mpr rfl])⟩
  · rintro ((⟨kind, vmid, hmem, hguest, rfl⟩ | ⟨name, hmem, hstorage, rfl⟩) |
      ⟨hadded, hreference⟩)
    · exact .inl ⟨kind, vmid, .inl hmem, hguest, rfl⟩
    · exact .inr ⟨name, .inl hmem, hstorage, rfl⟩
    · rcases hrefer member hadded hreference with
        ⟨kind, vmid, hguest, rfl⟩ | ⟨name, hstorage, rfl⟩
      · exact .inl ⟨kind, vmid, .inr ⟨kind, hadded⟩, hguest, rfl⟩
      · exact .inr ⟨name, .inr hadded, hstorage, rfl⟩

/-- The request that sets the comment. -/
theorem run_comment {before after : PoolDecl} (hcomment : pool.comment = before.comment) :
    base.LeadsTo store poolid (if before.comment ≠ after.comment then
        [.updatePool poolid [("comment", after.comment)]] else []) after.comment
      (base.PoolHas pool) := by
  by_cases hsame : before.comment = after.comment
  · rw [if_neg (not_not.mpr hsame)]
    exact ⟨store, pool, rfl, hat, hcomment.trans hsame, fun _ => Iff.rfl⟩
  rw [if_pos hsame]
  have hguests : (listed "vms" [("comment", after.comment)]).mapM store.guestWritten = .ok [] := rfl
  have hstorages : (listed "storage" [("comment", after.comment)]).mapM
      store.storageWritten = .ok [] := rfl
  obtain ⟨next, hrun, hnext⟩ := run_request hat hguests hstorages
  refine ⟨next, _, hrun, hnext, by simp [StoredPool.update], ?_⟩
  intro member
  simp [PoolHas, StoredPool.update]

end During

theorem mem_membersDiff {one two : List String} :
    member ∈ membersDiff one two ↔ member ∈ one ∧ member ∉ two := by simp [membersDiff]

variable {before after : PoolDecl}

/-- What is removed is in the pool, and what is added is declared. -/
theorem allRefer_membersDiff (hmembers : ∀ member, member ∈ before.members ↔
      base.PoolHas pool member) (hrefer : base.AllRefer after.members) :
    base.AllRefer (membersDiff before.members after.members) ∧
      base.AllRefer (membersDiff after.members before.members) := by
  constructor
  · intro member hmember _
    exact ((hmembers member).mp (mem_membersDiff.mp hmember).1).refers
  · intro member hmember
    exact hrefer member (mem_membersDiff.mp hmember).1

/-- The update of a pool that has the references and the comment of the one
declaration. -/
theorem run_poolUpdate (hat : PoolAt base base after.poolid pool)
    (hcomment : pool.comment = before.comment)
    (hmembers : ∀ member, member ∈ before.members ↔ base.PoolHas pool member)
    (hrefer : base.AllRefer after.members) :
    base.LeadsTo base after.poolid (applyPoolUpdate before after) after.comment
      fun member => member ∈ after.members ∧ IsReference member := by
  obtain ⟨hremovable, haddable⟩ := allRefer_membersDiff hmembers hrefer
  obtain ⟨first, same, hfirst, hsame, hset, hkept⟩ := run_comment hat hcomment
  obtain ⟨second, left, hsecond, hleft, hleftComment, hremoved⟩ := run_removal hsame hremovable
  obtain ⟨next, full, hthird, hfull, hfullComment, hadded⟩ := run_addition hleft haddable
  refine ⟨next, full, ?_, hfull, ?_, ?_⟩
  · rw [applyPoolUpdate, run_append_eq_ok]
    exact ⟨second, run_append_eq_ok.mpr ⟨first, hfirst, hsecond⟩, hthird⟩
  · rw [hfullComment, hleftComment, hset]
  · intro member
    simp only [hadded, hremoved, hkept, ← hmembers, mem_membersDiff]
    have hreference : member ∈ before.members → IsReference member :=
      fun hmember => ((hmembers member).mp hmember).refers.isReference
    tauto

end Members

section Exported

variable {store : PveStore} {pool : StoredPool} {poolid member : String}

/-- A pool as the exporter projects it. -/
def exportedPool (store : PveStore) (poolid : String) (pool : StoredPool) : PoolDecl where
  poolid := poolid
  comment := pool.comment
  members := sortTexts ((store.poolMembers pool).filterMap poolMemberToRef)

theorem mem_exportedPool : member ∈ (exportedPool store poolid pool).members ↔
    store.PoolHas pool member := by
  have hguest (kind : GuestType) (vmid : UInt32) : poolMemberToRef
      { memberType := kind.text, vmid := vmid, storage := "" } =
        some (guestRef kind vmid) := by cases kind <;> rfl
  have hstorage (name : String) : poolMemberToRef
      { memberType := "storage", vmid := 0, storage := name } = some (storageRef name) := rfl
  rw [exportedPool, sortTexts, mem_insertionSort, mem_filterMap]
  simp only [poolMembers, mem_append, mem_filterMap, Option.map_eq_some_iff]
  constructor
  · rintro ⟨wire, ⟨vmid, hmem, kind, hkind, rfl⟩ |
      ⟨name, hmem, fields, hfields, rfl⟩, href⟩
    · rw [hguest, Option.some.injEq] at href
      exact .inl ⟨kind, vmid, hmem, hkind, href.symm⟩
    · rw [hstorage, Option.some.injEq] at href
      exact .inr ⟨name, hmem, by simp [hfields], href.symm⟩
  · rintro (⟨kind, vmid, hmem, hkind, rfl⟩ | ⟨name, hmem, hsome, rfl⟩)
    · exact ⟨_, .inl ⟨vmid, hmem, kind, hkind, rfl⟩, hguest kind vmid⟩
    · obtain ⟨fields, hfields⟩ := Option.isSome_iff_exists.mp hsome
      exact ⟨_, .inr ⟨name, hmem, fields, hfields, rfl⟩, hstorage name⟩

theorem exported_pools (store : PveStore) (other : StateReadView) :
    ∃ live, exportPools (store.view other) = .ok live ∧
      ∀ poolid, lookup PoolDecl.poolid poolid live =
        (store.pools.get poolid).map (exportedPool store poolid) := by
  let project (poolid : String) : PoolDecl :=
    (store.pools.get poolid).elim { poolid, comment := "", members := [] }
      (exportedPool store poolid)
  let read (poolid : String) (_ : StoredPool) : String := poolid
  have hproject (poolid : String) : (project poolid).poolid = poolid := by
    cases hpool : store.pools.get poolid with
    | none => simp [project, hpool]
    | some pool => simp [project, hpool, exportedPool]
  refine ⟨(sortBy id (listObjects read store.pools)).map project, ?_, ?_⟩
  · refine mapM_eq_ok ?_
    intro poolid hlisted
    have hmem := (mem_insertionSort _).mp hlisted
    obtain ⟨⟨name, pool⟩, hobject, rfl⟩ := mem_map.mp hmem
    have hpool : store.pools.get name = some pool := Collection.get_eq_some.mpr hobject
    simp only [view, project, hpool]
    rfl
  · intro poolid
    have hprojected : lookup PoolDecl.poolid poolid
        ((sortBy id (listObjects read store.pools)).map project) =
          (store.pools.get poolid).map fun pool => project (read poolid pool) :=
      lookup_projected (fun _ _ => rfl) hproject
    rw [hprojected]
    cases hpool : store.pools.get poolid with
    | none => rfl
    | some pool => simp [project, read, hpool]

end Exported

/-- A request names a member by its id or its name. -/
def Names (params : Params) (member : String) : Prop :=
  (∃ id ∈ listed "vms" params, guestId member = some id) ∨
  ∃ name ∈ listed "storage" params, storageName member = some name

/-- The update of a pool leaves it with the declared comment and the declared
references of the known kinds.  Every request sets the comment or names a
member, unless it adds and nothing of a known kind is new; no request names a
member that the pool has and keeps. -/
structure PoolReached (store : PveStore) (other : StateReadView)
    (before after : PoolDecl) : Prop where
  exported : ∃ next fresh pool,
    store.run (applyPoolUpdate before after) = .ok next ∧
    exportPools (next.view other) = .ok fresh ∧
    lookup PoolDecl.poolid after.poolid fresh = some pool ∧
    pool.comment = after.comment ∧
    ∀ member, member ∈ pool.members ↔ member ∈ after.members ∧ IsReference member
  named : ∀ params, .updatePool after.poolid params ∈ applyPoolUpdate before after →
    values "comment" params ≠ [] ∨ (∃ member, Names params member) ∨
      values "delete" params = [] ∧ ∀ member ∈ after.members,
        IsReference member → member ∈ before.members
  untouched : ∀ params, .updatePool after.poolid params ∈ applyPoolUpdate before after →
    ∀ member ∈ before.members, member ∈ after.members → ¬Names params member

section Reached

variable {store : PveStore} {members : List String} {member : String} {params : Params}

section Listed

variable (hrefer : store.AllRefer members)
  (hvms : listed "vms" params = listed "vms" (memberParams members))
  (hstorage : listed "storage" params = listed "storage" (memberParams members))
include hrefer hvms hstorage

/-- A request for members names those of a known kind. -/
theorem names_memberParams (hmember : member ∈ members) (hreference : IsReference member) :
    Names params member := by
  rw [Names, hvms, hstorage, listed_vms hrefer, listed_storage hrefer]
  rcases hreference with hguest | hstored
  · obtain ⟨id, hid⟩ := Option.isSome_iff_exists.mp hguest
    exact .inl ⟨id, mem_filterMap.mpr ⟨member, hmember, hid⟩, hid⟩
  · obtain ⟨name, hname⟩ := Option.isSome_iff_exists.mp hstored
    exact .inr ⟨name, mem_filterMap.mpr ⟨member, hmember, hname⟩, hname⟩

/-- A member that exists is named only by a request it is in. -/
theorem mem_of_names (hrefers : store.Refers member) (hnames : Names params member) :
    member ∈ members := by
  rw [Names, hvms, hstorage, listed_vms hrefer, listed_storage hrefer] at hnames
  rcases hnames with ⟨id, hlisted, hid⟩ | ⟨name, hlisted, hname⟩
  · obtain ⟨other, hother, hsame⟩ := mem_filterMap.mp hlisted
    obtain ⟨kind, vmid, hguest, rfl, rfl⟩ := hrefer.guest hother hsame
    obtain ⟨own, rfl⟩ := exists_guestRef_of_guestId hid
    rcases hrefers with ⟨real, second, hreal, heq⟩ | ⟨name, -, heq⟩
    · obtain ⟨rfl, rfl⟩ := guestRef_inj heq
      rw [hguest, Option.some.injEq] at hreal
      rwa [← hreal]
    · exact absurd heq guestRef_ne_storageRef
  · obtain ⟨other, hother, hsame⟩ := mem_filterMap.mp hlisted
    rw [storageName_eq_some.mp hname, ← storageName_eq_some.mp hsame]
    exact hother

end Listed

variable {before after : PoolDecl}

/-- The requests of an update. -/
theorem request_cases {call : WriteCall} (hcall : call ∈ applyPoolUpdate before after) :
    ∃ params, call = .updatePool after.poolid params ∧
      (params = [("comment", after.comment)] ∨
      (membersDiff before.members after.members ≠ [] ∧ params = ("delete", "1") ::
          memberParams (membersDiff before.members after.members)) ∨
      params = memberParams (membersDiff after.members before.members)) := by
  simp only [applyPoolUpdate, mem_append] at hcall
  rcases hcall with (hcomment | hremoval) | haddition
  · split at hcomment
    · exact ⟨_, mem_singleton.mp hcomment, .inl rfl⟩
    · cases hcomment
  · split at hremoval
    · cases hremoval
    next hsome => exact ⟨_, mem_singleton.mp hremoval, .inr (.inl ⟨hsome, rfl⟩)⟩
  · split at haddition
    · cases haddition
    · exact ⟨_, mem_singleton.mp haddition, .inr (.inr rfl)⟩

/-- The update calls leave the guests and the storages. -/
theorem run_applyPoolUpdate_frame {next : PveStore}
    (hrun : store.run (applyPoolUpdate before after) = .ok next) :
    next.guests = store.guests ∧ next.storages = store.storages := by
  have hcalls : ∀ call ∈ applyPoolUpdate before after,
      ∃ params, call = .updatePool after.poolid params := by
    intro call hcall
    obtain ⟨params, hrequest, -⟩ := request_cases hcall
    exact ⟨params, hrequest⟩
  generalize applyPoolUpdate before after = calls at hrun hcalls
  induction calls generalizing store with
  | nil =>
    cases hrun
    exact ⟨rfl, rfl⟩
  | cons call rest ih =>
    obtain ⟨⟨params, rfl⟩, hrest⟩ := forall_mem_cons.mp hcalls
    obtain ⟨mid, hperform, hlater⟩ := run_cons_eq_ok.mp hrun
    obtain ⟨hguests, hstorages⟩ := perform_updatePool_frame hperform
    obtain ⟨hlast, hlastStorages⟩ := ih hlater hrest
    exact ⟨hlast.trans hguests, hlastStorages.trans hstorages⟩

variable {other : StateReadView}

/-- The pool behind an exported one. -/
theorem stored_of_exportedPool {live : List PoolDecl} {poolid : String}
    (hlive : exportPools (store.view other) = .ok live)
    (hbefore : lookup PoolDecl.poolid poolid live = some before) :
    ∃ pool, store.pools.get poolid = some pool ∧ before = exportedPool store poolid pool := by
  obtain ⟨exported, hexported, hlookup⟩ := exported_pools store other
  cases hexported.symm.trans hlive
  rw [hlookup] at hbefore
  obtain ⟨pool, hpool, hsame⟩ := Option.map_eq_some_iff.mp hbefore
  exact ⟨pool, hpool, hsame.symm⟩

theorem allRefer_of_reached (hreached : store.PoolReached other before after) :
    store.AllRefer after.members := by
  obtain ⟨next, fresh, shown, hrun, hfresh, hshown, -, hmembers⟩ := hreached.exported
  obtain ⟨hguests, hstorages⟩ := run_applyPoolUpdate_frame hrun
  obtain ⟨pool, -, rfl⟩ := stored_of_exportedPool hfresh hshown
  intro member hmember hreference
  have hhas := mem_exportedPool.mp ((hmembers member).mpr ⟨hmember, hreference⟩)
  have hrefers := hhas.refers
  rwa [Refers, hguests, hstorages] at hrefers

theorem reached_of_allRefer {live : List PoolDecl}
    (hlive : exportPools (store.view other) = .ok live)
    (hbefore : lookup PoolDecl.poolid after.poolid live = some before)
    (hrefer : store.AllRefer after.members) :
    store.PoolReached other before after := by
  obtain ⟨pool, hpool, hexported⟩ := stored_of_exportedPool hlive hbefore
  have hmembers (member : String) : member ∈ before.members ↔
      store.PoolHas pool member := by rw [hexported, mem_exportedPool]
  obtain ⟨hremovable, haddable⟩ := allRefer_membersDiff hmembers hrefer
  constructor
  · have hcomment : pool.comment = before.comment := by
      rw [hexported]
      rfl
    obtain ⟨next, full, hrun, hfull, hset, hhas⟩ :=
      run_poolUpdate ⟨rfl, rfl, hpool⟩ hcomment hmembers hrefer
    obtain ⟨fresh, hfresh, hlookup⟩ := exported_pools next other
    refine ⟨next, fresh, exportedPool next after.poolid full, hrun, hfresh, ?_, hset, ?_⟩
    · rw [hlookup, hfull.pool]
      rfl
    · intro member
      refine Iff.trans ?_ (hhas member)
      rw [mem_exportedPool, PoolHas, hfull.guests, hfull.storages]
      rfl
  · intro params hcall
    obtain ⟨_, heq, hcases⟩ := request_cases hcall
    cases heq
    rcases hcases with rfl | ⟨hsome, rfl⟩ | rfl
    · exact .inl (by simp)
    · obtain ⟨member, rest, hcons⟩ := exists_cons_of_ne_nil hsome
      have hmember : member ∈ membersDiff before.members after.members := by simp [hcons]
      have hreference := ((hmembers member).mp (mem_membersDiff.mp hmember).1).refers.isReference
      exact .inr (.inl ⟨member, names_memberParams hremovable
        (by simp [listed]) (by simp [listed]) hmember hreference⟩)
    · by_cases hnew : ∃ member ∈ membersDiff after.members before.members, IsReference member
      · obtain ⟨member, hmember, hreference⟩ := hnew
        exact .inr (.inl ⟨member, names_memberParams haddable rfl rfl hmember hreference⟩)
      · refine .inr (.inr ⟨by simp [memberParams_eq], ?_⟩)
        intro member hmember hreference
        by_contra habsent
        exact hnew ⟨member, mem_membersDiff.mpr ⟨hmember, habsent⟩, hreference⟩
  · intro params hcall member hold hkept hnames
    have hrefers := ((hmembers member).mp hold).refers
    obtain ⟨_, heq, hcases⟩ := request_cases hcall
    cases heq
    rcases hcases with rfl | ⟨-, rfl⟩ | rfl
    · simp [Names, listed] at hnames
    · have hremoved := mem_of_names hremovable (by simp [listed]) (by simp [listed]) hrefers hnames
      exact (mem_membersDiff.mp hremoved).2 hkept
    · have hadded := mem_of_names haddable rfl rfl hrefers hnames
      exact (mem_membersDiff.mp hadded).2 hold

end Reached

end PveStore

/-- A pool is left with exactly the declared references of the known kinds if
and only if each of them names a guest of its kind or a storage. -/
theorem pool_update_reaches_iff (store : PveStore) (other : StateReadView)
    (live : List PoolDecl) (before after : PoolDecl)
    (hlive : exportPools (store.view other) = .ok live)
    (hbefore : lookup PoolDecl.poolid after.poolid live = some before) :
    store.PoolReached other before after ↔ store.AllRefer after.members :=
  ⟨PveStore.allRefer_of_reached, PveStore.reached_of_allRefer hlive hbefore⟩

namespace PoolWitness

def store : PveStore :=
  { PveStore.blank with
    guests := ⟨[(100, .qemu), (200, .lxc)], by decide⟩
    storages := ⟨[("nas", [])], by decide⟩
    plainNames := by decide
    pools := ⟨[("dev", { comment := "", guests := [100], storages := [] })], by decide⟩ }

def live : PoolDecl :=
  { poolid := "dev", comment := "", members := ["qemu/100"] }

/-- Another guest and a storage in the place of the one guest. -/
def moved : PoolDecl :=
  { poolid := "dev", comment := "ci", members := ["lxc/200", "storage/nas"] }

/-- One more member, of a kind the update does not know. -/
def foreign : PoolDecl :=
  { poolid := "dev", comment := "", members := ["qemu/100", "sdn/dev-net"] }

def foreignText : String :=
  "[[pools]]\npoolid = \"dev\"\n" ++ "members = [\"qemu/100\", \"sdn/dev-net\"]\n"

def foreignDocument : StateDocument where
  header := none
  state := { pools := [foreign] }

theorem pool_update_reaches_moved : store.PoolReached ExportWitness.view live moved := by
  have hrefer : store.AllRefer moved.members := by
    intro member hmember _
    rcases mem_cons.mp hmember with rfl | hrest
    · exact .inl ⟨.lxc, 200, by decide +kernel, by decide +kernel⟩
    · obtain rfl := mem_singleton.mp hrest
      exact .inr ⟨"nas", by decide +kernel, by decide +kernel⟩
  exact (pool_update_reaches_iff store ExportWitness.view [live] live moved
    (by decide +kernel) (by decide +kernel)).mpr hrefer

/-- The document is accepted and the update sends one request that names
nothing; the declared member is not added. -/
theorem pool_update_drops_member : (fromTomlStr (ExportWitness.crateOf foreignDocument.toToml)
      foreignText).toOption.map (·.state.pools) = some [foreign] ∧
    exportPools (store.view ExportWitness.view) = .ok [live] ∧
    diffPools [foreign] [live] = [Family.pools.change (.update live foreign)] ∧
    applyPoolUpdate live foreign = [.updatePool "dev" []] ∧
    store.exportBehind ExportWitness.view (applyPoolUpdate live foreign) exportPools = .ok [live] ∧
    "sdn/dev-net" ∈ foreign.members ∧ "sdn/dev-net" ∉ live.members := by decide +kernel

end PoolWitness

end Proxxx
