import BacnetEventServer.Pipeline
import BacnetEventServer.Kinds

namespace BacnetEventServer

/-- `MAX_SUBSCRIPTIONS`. -/
def maxSubscriptions : Nat := 32

/-- What `load_subscriptions` leaves: `-1` with no table, the table it filled, or the crash of
`strncpy` on the `NULL` `valuestring` of a `subscriptionId` that is not a string. -/
inductive SubscriptionsLoad
  | failed
  | loaded (subscriptions : List Subscription)
  | nullSubscriptionId
  deriving DecidableEq, Repr

/-- The tests that skip a device: no `subscriptionId` or no `streamName`, or an `enabled`
that is not `true`. -/
def deviceCounts (device : Json) : Bool :=
  (device.getObjectItem (lit "subscriptionId")).isSome &&
    (device.getObjectItem (lit "streamName")).isSome &&
    !((device.getObjectItem (lit "enabled")).isSome &&
      !isTrueItem (device.getObjectItem (lit "enabled")))

/-- The record of a device that counts, or `none` when its id is not a string. -/
def deviceSubscription (device : Json) : Option Subscription :=
  (valueString (device.getObjectItem (lit "subscriptionId"))).map fun id =>
    { subscriptionId := strncpy 127 id
      instanceOffset :=
        if (device.getObjectItem (lit "objectInstanceOffset")).isSome then
          castUInt32 (valueDouble (device.getObjectItem (lit "objectInstanceOffset")))
        else 0 }

/-- `cJSON_ArrayForEach(device, devices)` with the records so far. -/
def loadDevices (subs : List Subscription) : List Json → SubscriptionsLoad
  | [] => .loaded subs
  | device :: rest =>
    if maxSubscriptions ≤ subs.length then .loaded subs
    else if deviceCounts device then
      match deviceSubscription device with
      | some sub => loadDevices (subs ++ [sub]) rest
      | none => .nullSubscriptionId
    else loadDevices subs rest

/-- `load_subscriptions` on the document `cJSON_Parse` made of the file (`none` when the file
cannot be read or parsed). -/
def loadSubscriptions : Option Json → SubscriptionsLoad
  | some root =>
    match root.getObjectItem (lit "devices") with
    | some (.array devices) => loadDevices [] devices
    | _ => .failed
  | none => .failed

/-- The records of a list of devices, or `none` from the first whose id is not a string. -/
def deviceRecords : List Json → Option (List Subscription)
  | [] => some []
  | device :: rest => (deviceSubscription device).bind fun sub => (deviceRecords rest).map (sub :: ·)

/-- The table of a list of records, or the crash when one is missing. -/
def SubscriptionsLoad.ofRecords : Option (List Subscription) → SubscriptionsLoad
  | some subs => .loaded subs
  | none => .nullSubscriptionId

theorem loadDevices_eq (subs : List Subscription) (hsubs : subs.length ≤ maxSubscriptions)
    (devices : List Json) :
    loadDevices subs devices =
      .ofRecords ((deviceRecords ((devices.filter deviceCounts).take
        (maxSubscriptions - subs.length))).map (subs ++ ·)) := by
  induction devices generalizing subs with
  | nil => simp [loadDevices, deviceRecords, SubscriptionsLoad.ofRecords]
  | cons device rest ih =>
    by_cases hfull : maxSubscriptions ≤ subs.length
    · have hzero : maxSubscriptions - subs.length = 0 := by omega
      simp [loadDevices, hfull, hzero, deviceRecords, SubscriptionsLoad.ofRecords]
    · obtain ⟨k, hk⟩ : ∃ k, maxSubscriptions - subs.length = k + 1 :=
        ⟨maxSubscriptions - subs.length - 1, by omega⟩
      by_cases hcounts : deviceCounts device = true
      · cases hsub : deviceSubscription device with
        | none => simp [loadDevices, hfull, hcounts, hsub, hk, deviceRecords, SubscriptionsLoad.ofRecords]
        | some sub =>
          have hk' : maxSubscriptions - (subs ++ [sub]).length = k := by simp; omega
          rw [loadDevices, if_neg hfull, if_pos hcounts, hsub]
          dsimp only
          rw [ih (subs ++ [sub]) (by simp; omega), hk', List.filter_cons_of_pos hcounts, hk,
            List.take_succ_cons]
          cases hrest : deviceRecords ((rest.filter deviceCounts).take k) <;>
            simp [deviceRecords, hsub, hrest, SubscriptionsLoad.ofRecords]
      · simp [loadDevices, hfull, hcounts, ih subs hsubs]

/-- `load_subscriptions` reads the first `MAX_SUBSCRIPTIONS` devices that count, in order, and
no other: the table is their records, and the call crashes when one of them has an id that is
not a string. -/
theorem loadSubscriptions_first_counting (root : Json) (devices : List Json)
    (hdevices : root.getObjectItem (lit "devices") = some (.array devices)) :
    loadSubscriptions (some root) =
      .ofRecords (deviceRecords ((devices.filter deviceCounts).take maxSubscriptions)) := by
  simp [loadSubscriptions, hdevices, loadDevices_eq [] (Nat.zero_le _)]

theorem disabled_device_skipped :
    let devices : List Json := [.object [(lit "subscriptionId", .string (lit "a")),
        (lit "streamName", .string (lit "s")), (lit "enabled", .bool false)],
      .object [(lit "subscriptionId", .string (lit "b")), (lit "streamName", .string (lit "s"))]]
    let root : Json := .object [(lit "devices", .array devices)]
    root.getObjectItem (lit "devices") = some (.array devices) ∧
      loadSubscriptions (some root) =
        .ofRecords (deviceRecords ((devices.filter deviceCounts).take maxSubscriptions)) :=
  ⟨rfl, loadSubscriptions_first_counting _ _ rfl⟩

theorem deviceRecords_length {devices : List Json} {subs : List Subscription}
    (h : deviceRecords devices = some subs) : subs.length = devices.length := by
  induction devices generalizing subs with
  | nil => cases h; rfl
  | cons device rest ih =>
    obtain ⟨sub, -, hrest⟩ := Option.bind_eq_some.mp h
    obtain ⟨tail, htail, rfl⟩ := Option.map_eq_some'.mp hrest
    simp [ih htail]

theorem mem_deviceRecords {devices : List Json} {subs : List Subscription}
    (h : deviceRecords devices = some subs) {sub : Subscription} (hsub : sub ∈ subs) :
    ∃ device ∈ devices, deviceSubscription device = some sub := by
  induction devices generalizing subs with
  | nil => cases h; cases hsub
  | cons device rest ih =>
    obtain ⟨first, hfirst, hrest⟩ := Option.bind_eq_some.mp h
    obtain ⟨tail, htail, rfl⟩ := Option.map_eq_some'.mp hrest
    rcases List.mem_cons.mp hsub with rfl | hmem
    · exact ⟨device, List.mem_cons_self _ _, hfirst⟩
    · obtain ⟨d, hd, hds⟩ := ih htail hmem
      exact ⟨d, List.mem_cons_of_mem _ hd, hds⟩

theorem deviceSubscription_fits {device : Json} {sub : Subscription}
    (h : deviceSubscription device = some sub) :
    sub.subscriptionId.length ≤ 127 ∧ sub.instanceOffset < 2 ^ 32 := by
  obtain ⟨id, -, rfl⟩ := Option.map_eq_some'.mp h
  refine ⟨List.length_take_le _ _, ?_⟩
  dsimp only
  split
  · exact castUInt32_lt _
  · decide

/-- `load_subscriptions` never writes past `g_subscriptions`: whatever the document, a table it
fills has at most `MAX_SUBSCRIPTIONS` records, each id within 127 bytes and each offset a
`uint32_t`. -/
theorem loadSubscriptions_fits {doc : Option Json} {subs : List Subscription}
    (h : loadSubscriptions doc = .loaded subs) :
    subs.length ≤ maxSubscriptions ∧
      ∀ sub ∈ subs, sub.subscriptionId.length ≤ 127 ∧ sub.instanceOffset < 2 ^ 32 := by
  obtain _ | root := doc
  · cases h
  · simp only [loadSubscriptions] at h
    split at h
    · rw [loadDevices_eq [] (Nat.zero_le _)] at h
      cases hrecords : deviceRecords (((‹List Json›).filter deviceCounts).take maxSubscriptions) with
      | none => simp [hrecords, SubscriptionsLoad.ofRecords] at h
      | some records =>
        simp only [hrecords, List.length_nil, Nat.sub_zero, Option.map_some', List.nil_append,
          SubscriptionsLoad.ofRecords, SubscriptionsLoad.loaded.injEq] at h
        subst h
        refine ⟨(deviceRecords_length hrecords).trans_le (List.length_take_le _ _), fun sub hsub => ?_⟩
        obtain ⟨device, -, hdevice⟩ := mem_deviceRecords hrecords hsub
        exact deviceSubscription_fits hdevice
    · cases h

theorem one_device_loaded :
    let root : Json := .object [(lit "devices", .array [.object
      [(lit "subscriptionId", .string (lit "bacnet-objects")), (lit "streamName", .string (lit "objects"))]])]
    loadSubscriptions (some root) = .loaded [⟨lit "bacnet-objects", 0⟩] ∧
      ([⟨lit "bacnet-objects", 0⟩] : List Subscription).length ≤ maxSubscriptions ∧
      ∀ sub ∈ [(⟨lit "bacnet-objects", 0⟩ : Subscription)],
        sub.subscriptionId.length ≤ 127 ∧ sub.instanceOffset < 2 ^ 32 := by
  intro root
  have h : loadSubscriptions (some root) = .loaded [⟨lit "bacnet-objects", 0⟩] := by decide
  exact ⟨h, loadSubscriptions_fits h⟩

/-- `(uint16_t)`: the low 16 bits of the 32-bit conversion. -/
def castUInt16 (x : CDouble) : Nat := (castInt32 x % 2 ^ 16).toNat

/-- The fields of `bacnet_server_config_t` that `load_config` writes; a `NULL` string is
`none`. -/
structure BacnetSettings where
  deviceInstance : Nat
  deviceName : Option CStr
  deviceDescription : Option CStr
  vendorId : Nat
  vendorName : Option CStr
  modelName : Option CStr
  port : Int
  interface : Option CStr
  covLifetime : Nat
  maxCovSubscriptions : Int
  deriving DecidableEq, Repr

/-- `redis_config_t`. -/
structure RedisSettings where
  host : Option CStr
  port : Int
  password : Option CStr
  database : Int
  keyPrefix : Option CStr
  connectionTimeoutMs : Int
  commandTimeoutMs : Int
  deriving DecidableEq, Repr

/-- The fields of `kurrentdb_config_t` that `load_config` writes. -/
structure KurrentdbSettings where
  connectionString : Option CStr
  tlsEnabled : Bool
  tlsVerifyCert : Bool
  reconnectDelayMs : Int
  maxReconnectAttempts : Int
  deriving DecidableEq, Repr

/-- `g_config`. -/
structure GatewayConfig where
  bacnet : BacnetSettings
  redis : RedisSettings
  kurrentdb : KurrentdbSettings
  deriving DecidableEq, Repr

/-- `g_config` as the program starts: static, so zero and `NULL` throughout. -/
def GatewayConfig.zero : GatewayConfig :=
  ⟨⟨0, none, none, 0, none, none, 0, none, 0, 0⟩, ⟨none, 0, none, 0, none, 0, 0⟩,
    ⟨none, false, false, 0, 0⟩⟩

/-- A member of the configuration: its section and its name. -/
abbrev ConfigPath := CStr × CStr

/-- `sub_item ? conv(sub_item) : ifAbsent`, and `if (sub_item) field = conv(sub_item);` with
the field's value as `ifAbsent`. -/
def memberOr {α : Type} (obj : Json) (key : CStr) (conv : Json → α) (ifAbsent : α) : α :=
  match obj.getObjectItem key with
  | some item => conv item
  | none => ifAbsent

/-- The same with `strdup(sub_item->valuestring)`: the text of a string member, the
dereference of the `NULL` `valuestring` of any other. -/
def stringMember (obj : Json) (path : ConfigPath) (ifAbsent : Option CStr) :
    Except ConfigPath (Option CStr) :=
  match obj.getObjectItem path.2 with
  | some (.string s) => .ok (some s)
  | some _ => .error path
  | none => .ok ifAbsent

/-- `cJSON_GetObjectItemCaseSensitive(obj, key)->valuedouble` with no test: the number of a
present member, the dereference of `NULL` at a missing one. -/
def derefMember (obj : Json) (path : ConfigPath) : Except ConfigPath CDouble :=
  match obj.getObjectItem path.2 with
  | some j => .ok (valueDouble (some j))
  | none => .error path

/-- `(int)sub_item->valuedouble`. -/
def intMember (item : Json) : Int := castInt32 (valueDouble (some item))

/-- The `server` section over the settings it finds. -/
def loadServerSection (item : Json) (old : BacnetSettings) : Except ConfigPath BacnetSettings := do
  let deviceInstance ← derefMember item (lit "server", lit "deviceInstance")
  let deviceName ← stringMember item (lit "server", lit "deviceName") old.deviceName
  let deviceDescription ←
    stringMember item (lit "server", lit "deviceDescription") old.deviceDescription
  let vendorId :=
    memberOr item (lit "vendorId") (fun j => castUInt16 (valueDouble (some j))) old.vendorId
  let vendorName ← stringMember item (lit "server", lit "vendorName") old.vendorName
  let modelName ← stringMember item (lit "server", lit "modelName") old.modelName
  let port := memberOr item (lit "port") intMember 47808
  let interface ← stringMember item (lit "server", lit "interface") old.interface
  let covLifetime :=
    memberOr item (lit "covLifetime") (fun j => castUInt32 (valueDouble (some j))) 300
  let maxCovSubscriptions := memberOr item (lit "maxCovSubscriptions") intMember 100
  pure ⟨castUInt32 deviceInstance, deviceName, deviceDescription, vendorId, vendorName, modelName,
    port, interface, covLifetime, maxCovSubscriptions⟩

/-- The `redis` section. -/
def loadRedisSection (item : Json) : Except ConfigPath RedisSettings := do
  let host ← stringMember item (lit "redis", lit "host") (some (lit "localhost"))
  let port := memberOr item (lit "port") intMember 6379
  let password ← stringMember item (lit "redis", lit "password") none
  let database := memberOr item (lit "database") intMember 0
  let keyPrefix ← stringMember item (lit "redis", lit "keyPrefix") (some (lit "bacnet:"))
  let connectionTimeoutMs := memberOr item (lit "connectionTimeout") intMember 5000
  let commandTimeoutMs := memberOr item (lit "commandTimeout") intMember 1000
  pure ⟨host, port, password, database, keyPrefix, connectionTimeoutMs, commandTimeoutMs⟩

/-- The `kurrentdb` section over the settings it finds. -/
def loadKurrentdbSection (item : Json) (old : KurrentdbSettings) :
    Except ConfigPath KurrentdbSettings := do
  let connectionString ←
    stringMember item (lit "kurrentdb", lit "connectionString") old.connectionString
  let tlsEnabled := memberOr item (lit "tlsEnabled") Json.isTrue true
  let tlsVerifyCert := memberOr item (lit "tlsVerifyCert") Json.isTrue true
  let reconnectDelayMs := memberOr item (lit "reconnectDelayMs") intMember 5000
  let maxReconnectAttempts := memberOr item (lit "maxReconnectAttempts") intMember (-1)
  pure ⟨connectionString, tlsEnabled, tlsVerifyCert, reconnectDelayMs, maxReconnectAttempts⟩

/-- `if (item) ...`: a section read when present, the old settings otherwise. -/
def loadSection {α : Type} (root : Json) (name : CStr) (load : Json → Except ConfigPath α)
    (old : α) : Except ConfigPath α :=
  match root.getObjectItem name with
  | some item => load item
  | none => pure old

/-- What `load_config` leaves: `-1`, the configuration it wrote, or the `NULL` dereference at
a member. -/
inductive ConfigLoad
  | failed
  | loaded (config : GatewayConfig)
  | nullDereference (path : ConfigPath)
  deriving DecidableEq, Repr

/-- `load_config` over `g_config` as it was, on the document `cJSON_Parse` made of the file. -/
def loadConfig (g : GatewayConfig) : Option Json → ConfigLoad
  | none => .failed
  | some root =>
    let sections : Except ConfigPath GatewayConfig := do
      let bacnet ← loadSection root (lit "server") (loadServerSection · g.bacnet) g.bacnet
      let redis ← loadSection root (lit "redis") loadRedisSection g.redis
      let kurrentdb ←
        loadSection root (lit "kurrentdb") (loadKurrentdbSection · g.kurrentdb) g.kurrentdb
      pure ⟨bacnet, redis, kurrentdb⟩
    match sections with
    | .ok config => .loaded config
    | .error path => .nullDereference path

theorem loadSection_of_absent {α : Type} {root : Json} {name : CStr}
    (h : root.getObjectItem name = none) (load : Json → Except ConfigPath α) (old : α) :
    loadSection root name load old = .ok old := by
  simp [loadSection, h, pure, Except.pure]

theorem loadConfig_loaded {g : GatewayConfig} {root : Json} {c : GatewayConfig}
    (h : loadConfig g (some root) = .loaded c) :
    loadSection root (lit "server") (loadServerSection · g.bacnet) g.bacnet = .ok c.bacnet ∧
      loadSection root (lit "redis") loadRedisSection g.redis = .ok c.redis ∧
      loadSection root (lit "kurrentdb") (loadKurrentdbSection · g.kurrentdb) g.kurrentdb =
        .ok c.kurrentdb := by
  simp only [loadConfig] at h
  cases hb : loadSection root (lit "server") (loadServerSection · g.bacnet) g.bacnet <;>
    cases hr : loadSection root (lit "redis") loadRedisSection g.redis <;>
    cases hk : loadSection root (lit "kurrentdb") (loadKurrentdbSection · g.kurrentdb) g.kurrentdb <;>
    simp only [hb, hr, hk, bind, Except.bind, pure, Except.pure, ConfigLoad.loaded.injEq,
      reduceCtorEq] at h
  subst h
  exact ⟨rfl, rfl, rfl⟩

/-- A section missing from a document that loads leaves its part of `g_config` as it was. -/
theorem loadConfig_absent_sections {g : GatewayConfig} {root : Json} {c : GatewayConfig}
    (h : loadConfig g (some root) = .loaded c) :
    (root.getObjectItem (lit "server") = none → c.bacnet = g.bacnet) ∧
      (root.getObjectItem (lit "redis") = none → c.redis = g.redis) ∧
      (root.getObjectItem (lit "kurrentdb") = none → c.kurrentdb = g.kurrentdb) := by
  obtain ⟨hb, hr, hk⟩ := loadConfig_loaded h
  refine ⟨fun hs => ?_, fun hs => ?_, fun hs => ?_⟩
  · simpa [loadSection_of_absent hs] using hb.symm
  · simpa [loadSection_of_absent hs] using hr.symm
  · simpa [loadSection_of_absent hs] using hk.symm

/-- Every member where `r` can dereference `NULL` satisfies `P`. -/
def FaultsIn {α : Type} (P : ConfigPath → Prop) (r : Except ConfigPath α) : Prop :=
  ∀ p, r = .error p → P p

namespace FaultsIn

variable {α β : Type} {P : ConfigPath → Prop}

theorem pure (a : α) : FaultsIn P (Pure.pure a : Except ConfigPath α) :=
  fun _ h => nomatch h

theorem bind {x : Except ConfigPath α} {f : α → Except ConfigPath β} (hx : FaultsIn P x)
    (hf : ∀ a, FaultsIn P (f a)) : FaultsIn P (x >>= f) := by
  intro p h
  cases x with
  | error p' => cases h; exact hx _ rfl
  | ok a => exact hf a p h

theorem mono {Q : ConfigPath → Prop} {r : Except ConfigPath α} (h : FaultsIn P r)
    (hPQ : ∀ p, P p → Q p) : FaultsIn Q r :=
  fun p hp => hPQ p (h p hp)

end FaultsIn

/-- A member of `obj` that is present and not a string. -/
def NotAString (obj : Json) (path : ConfigPath) : Prop :=
  ∃ j, obj.getObjectItem path.2 = some j ∧ j.isString = false

/-- The members each section reads with `strdup(sub_item->valuestring)`. -/
def stringMembers (name : CStr) : List CStr :=
  if name = lit "server" then
    [lit "deviceName", lit "deviceDescription", lit "vendorName", lit "modelName", lit "interface"]
  else if name = lit "redis" then [lit "host", lit "password", lit "keyPrefix"]
  else if name = lit "kurrentdb" then [lit "connectionString"]
  else []

/-- The members of section `name` that fault: the missing `deviceInstance` of `server`, or a
member read with `strdup` that is not a string. -/
def SectionFault (name : CStr) (obj : Json) (p : ConfigPath) : Prop :=
  p.1 = name ∧ ((name = lit "server" ∧ p.2 = lit "deviceInstance" ∧ obj.getObjectItem p.2 = none) ∨
    (p.2 ∈ stringMembers name ∧ NotAString obj p))

theorem stringMember_faults (obj : Json) (path : ConfigPath) (ifAbsent : Option CStr) :
    FaultsIn (fun p => p = path ∧ NotAString obj p) (stringMember obj path ifAbsent) := by
  intro p h
  unfold stringMember at h
  split at h
  · cases h
  · cases h
    exact ⟨rfl, _, ‹_›, by cases ‹Json› <;> simp_all [Json.isString]⟩
  · cases h

theorem stringMember_ok {obj : Json} {path : ConfigPath} {ifAbsent v : Option CStr}
    (h : stringMember obj path ifAbsent = .ok v) : ¬ NotAString obj path := by
  rintro ⟨j, hj, hs⟩
  simp only [stringMember, hj] at h
  cases j <;> simp_all [Json.isString]

theorem stringMember_sectionFaults {obj : Json} {name key : CStr} (hkey : key ∈ stringMembers name)
    (ifAbsent : Option CStr) :
    FaultsIn (SectionFault name obj) (stringMember obj (name, key) ifAbsent) :=
  (stringMember_faults obj _ ifAbsent).mono fun _ h => by
    obtain ⟨rfl, hs⟩ := h
    exact ⟨rfl, .inr ⟨hkey, hs⟩⟩

theorem derefMember_ok {obj : Json} {path : ConfigPath} {v : CDouble}
    (h : derefMember obj path = .ok v) : obj.getObjectItem path.2 ≠ none := fun hnone => by
  simp [derefMember, hnone] at h

theorem loadServerSection_faults (item : Json) (old : BacnetSettings) :
    FaultsIn (SectionFault (lit "server") item) (loadServerSection item old) := by
  have hinstance : FaultsIn (SectionFault (lit "server") item)
      (derefMember item (lit "server", lit "deviceInstance")) := by
    intro p h
    unfold derefMember at h
    split at h
    · cases h
    · cases h
      exact ⟨rfl, .inl ⟨rfl, rfl, ‹_›⟩⟩
  unfold loadServerSection
  exact hinstance.bind fun _ => (stringMember_sectionFaults (by decide) _).bind fun _ =>
    (stringMember_sectionFaults (by decide) _).bind fun _ =>
    (stringMember_sectionFaults (by decide) _).bind fun _ =>
    (stringMember_sectionFaults (by decide) _).bind fun _ =>
    (stringMember_sectionFaults (by decide) _).bind fun _ => .pure _

theorem loadRedisSection_faults (item : Json) :
    FaultsIn (SectionFault (lit "redis") item) (loadRedisSection item) := by
  unfold loadRedisSection
  exact (stringMember_sectionFaults (by decide) _).bind fun _ =>
    (stringMember_sectionFaults (by decide) _).bind fun _ =>
    (stringMember_sectionFaults (by decide) _).bind fun _ => .pure _

theorem loadKurrentdbSection_faults (item : Json) (old : KurrentdbSettings) :
    FaultsIn (SectionFault (lit "kurrentdb") item) (loadKurrentdbSection item old) := by
  unfold loadKurrentdbSection
  exact (stringMember_sectionFaults (by decide) _).bind fun _ => .pure _

theorem bind_eq_ok {α β : Type} {x : Except ConfigPath α} {f : α → Except ConfigPath β} {b : β}
    (h : x >>= f = .ok b) : ∃ a, x = .ok a ∧ f a = .ok b := by
  cases x with
  | error p => cases h
  | ok a => exact ⟨a, rfl, h⟩

theorem mem_stringMembers {name key : CStr} (h : key ∈ stringMembers name) :
    (name = lit "server" ∧ (key = lit "deviceName" ∨ key = lit "deviceDescription" ∨
        key = lit "vendorName" ∨ key = lit "modelName" ∨ key = lit "interface")) ∨
      (name = lit "redis" ∧ (key = lit "host" ∨ key = lit "password" ∨ key = lit "keyPrefix")) ∨
      (name = lit "kurrentdb" ∧ key = lit "connectionString") := by
  unfold stringMembers at h
  split_ifs at h with hs hr hk <;> simp_all

theorem loadServerSection_ok {item : Json} {old v : BacnetSettings}
    (h : loadServerSection item old = .ok v) (p : ConfigPath) :
    ¬ SectionFault (lit "server") item p := by
  unfold loadServerSection at h
  obtain ⟨_, hinstance, h⟩ := bind_eq_ok h
  obtain ⟨_, hname, h⟩ := bind_eq_ok h
  obtain ⟨_, hdescription, h⟩ := bind_eq_ok h
  obtain ⟨_, hvendor, h⟩ := bind_eq_ok h
  obtain ⟨_, hmodel, h⟩ := bind_eq_ok h
  obtain ⟨_, hinterface, -⟩ := bind_eq_ok h
  obtain ⟨name, key⟩ := p
  rintro ⟨rfl, ⟨-, rfl, hnone⟩ | ⟨hkey, hstr⟩⟩
  · exact derefMember_ok hinstance hnone
  · rcases mem_stringMembers hkey with ⟨-, rfl | rfl | rfl | rfl | rfl⟩ | ⟨hr, -⟩ | ⟨hk, -⟩
    · exact stringMember_ok hname hstr
    · exact stringMember_ok hdescription hstr
    · exact stringMember_ok hvendor hstr
    · exact stringMember_ok hmodel hstr
    · exact stringMember_ok hinterface hstr
    · exact absurd hr (by decide)
    · exact absurd hk (by decide)

theorem loadRedisSection_ok {item : Json} {v : RedisSettings}
    (h : loadRedisSection item = .ok v) (p : ConfigPath) : ¬ SectionFault (lit "redis") item p := by
  unfold loadRedisSection at h
  obtain ⟨_, hhost, h⟩ := bind_eq_ok h
  obtain ⟨_, hpassword, h⟩ := bind_eq_ok h
  obtain ⟨_, hkeyPrefix, -⟩ := bind_eq_ok h
  obtain ⟨name, key⟩ := p
  rintro ⟨rfl, ⟨hs, -⟩ | ⟨hkey, hstr⟩⟩
  · exact absurd hs (by decide)
  · rcases mem_stringMembers hkey with ⟨hs, -⟩ | ⟨-, rfl | rfl | rfl⟩ | ⟨hk, -⟩
    · exact absurd hs (by decide)
    · exact stringMember_ok hhost hstr
    · exact stringMember_ok hpassword hstr
    · exact stringMember_ok hkeyPrefix hstr
    · exact absurd hk (by decide)

theorem loadKurrentdbSection_ok {item : Json} {old v : KurrentdbSettings}
    (h : loadKurrentdbSection item old = .ok v) (p : ConfigPath) :
    ¬ SectionFault (lit "kurrentdb") item p := by
  unfold loadKurrentdbSection at h
  obtain ⟨_, hconnection, -⟩ := bind_eq_ok h
  obtain ⟨name, key⟩ := p
  rintro ⟨rfl, ⟨hs, -⟩ | ⟨hkey, hstr⟩⟩
  · exact absurd hs (by decide)
  · rcases mem_stringMembers hkey with ⟨hs, -⟩ | ⟨hr, -⟩ | ⟨-, rfl⟩
    · exact absurd hs (by decide)
    · exact absurd hr (by decide)
    · exact stringMember_ok hconnection hstr

/-- Where `load_config` can dereference `NULL`: a fault of a section the document has. -/
def ConfigFault (root : Json) (p : ConfigPath) : Prop :=
  ∃ item, root.getObjectItem p.1 = some item ∧ SectionFault p.1 item p

theorem loadSection_faults {α : Type} {root : Json} {name : CStr}
    {load : Json → Except ConfigPath α} (hload : ∀ item, FaultsIn (SectionFault name item) (load item))
    (old : α) : FaultsIn (ConfigFault root) (loadSection root name load old) := by
  unfold loadSection
  split
  · intro p h
    have hfault := hload _ p h
    exact ⟨_, hfault.1 ▸ ‹_›, hfault.1 ▸ hfault⟩
  · exact .pure _

theorem loadSection_ok {α : Type} {root : Json} {name : CStr} {load : Json → Except ConfigPath α}
    (hload : ∀ item v, load item = .ok v → ∀ p, ¬ SectionFault name item p) {old v : α}
    (h : loadSection root name load old = .ok v) (p : ConfigPath) (hp : p.1 = name) :
    ¬ ConfigFault root p := by
  rintro ⟨item, hitem, hfault⟩
  rw [hp] at hitem hfault
  simp only [loadSection, hitem] at h
  exact hload item v h p hfault

theorem SectionFault.name_mem {name : CStr} {obj : Json} {p : ConfigPath}
    (h : SectionFault name obj p) :
    name = lit "server" ∨ name = lit "redis" ∨ name = lit "kurrentdb" := by
  rcases h with ⟨-, ⟨hs, -⟩ | ⟨hkey, -⟩⟩
  · exact .inl hs
  · rcases mem_stringMembers hkey with ⟨hs, -⟩ | ⟨hr, -⟩ | ⟨hk, -⟩
    exacts [.inl hs, .inr (.inl hr), .inr (.inr hk)]

/-- `load_config` dereferences `NULL` exactly when a section the document has faults: a
`server` without `deviceInstance`, or a member read with `strdup` that is present and not a
string; and the member it faults at is such a fault. -/
theorem loadConfig_nullDereference (g : GatewayConfig) (root : Json) :
    (∀ p, loadConfig g (some root) = .nullDereference p → ConfigFault root p) ∧
      ((∃ p, loadConfig g (some root) = .nullDereference p) ↔ ∃ p, ConfigFault root p) := by
  have hsound : ∀ p, loadConfig g (some root) = .nullDereference p → ConfigFault root p := by
    have hfaults : FaultsIn (ConfigFault root) (do
        let bacnet ← loadSection root (lit "server") (loadServerSection · g.bacnet) g.bacnet
        let redis ← loadSection root (lit "redis") loadRedisSection g.redis
        let kurrentdb ←
          loadSection root (lit "kurrentdb") (loadKurrentdbSection · g.kurrentdb) g.kurrentdb
        Pure.pure (⟨bacnet, redis, kurrentdb⟩ : GatewayConfig)) :=
      (loadSection_faults (loadServerSection_faults · _) _).bind fun _ =>
        (loadSection_faults loadRedisSection_faults _).bind fun _ =>
        (loadSection_faults (loadKurrentdbSection_faults · _) _).bind fun _ => .pure _
    intro p h
    simp only [loadConfig] at h
    split at h
    · cases h
    · cases h
      exact hfaults _ ‹_›
  refine ⟨hsound, fun ⟨p, h⟩ => ⟨p, hsound p h⟩, fun ⟨p, hp⟩ => ?_⟩
  cases hload : loadConfig g (some root) with
  | failed => simp [loadConfig] at hload; split at hload <;> cases hload
  | nullDereference q => exact ⟨q, rfl⟩
  | loaded c =>
    obtain ⟨hb, hr, hk⟩ := loadConfig_loaded hload
    exfalso
    obtain ⟨_, -, hfault⟩ := id hp
    rcases hfault.name_mem with hs | hs | hs
    · exact loadSection_ok (fun _ _ h => loadServerSection_ok h) hb p hs hp
    · exact loadSection_ok (fun _ _ h => loadRedisSection_ok h) hr p hs hp
    · exact loadSection_ok (fun _ _ h => loadKurrentdbSection_ok h) hk p hs hp

theorem server_without_instance_faults :
    let root : Json := .object [(lit "server", .object [(lit "port", .number (CDouble.ofInt 47808))])]
    loadConfig .zero (some root) = .nullDereference (lit "server", lit "deviceInstance") ∧
      ConfigFault root (lit "server", lit "deviceInstance") := by
  intro root
  have h : loadConfig .zero (some root) = .nullDereference (lit "server", lit "deviceInstance") := by
    decide
  exact ⟨h, (loadConfig_nullDereference .zero root).1 _ h⟩

end BacnetEventServer
