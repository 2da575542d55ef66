import BacnetEventServer.Parse
import BacnetEventServer.Cache
import BacnetEventServer.Server

namespace BacnetEventServer

namespace ServerApi

/-- The value a cached record hands to the server, as `bacnet_server_load_from_cache`
builds it: the union member of the value type, the enum cast read by name. That switch
has no case for a signed value, which becomes `NULL`. -/
def cachedValue (o : CachedObject) : BacnetValue :=
  if o.valueType = valueTypeReal then .real o.presentValue.realValue
  else if o.valueType = valueTypeBoolean then .boolean o.presentValue.booleanValue
  else if o.valueType = valueTypeUnsigned then .unsigned o.presentValue.unsignedValue
  else if o.valueType = valueTypeEnumerated then .enumerated o.presentValue.unsignedValue
  else .null

/-- What the update of an object the server holds writes: the fields the create sets from
the record, the creation time and the last notified value kept. -/
def refreshObject (o : CachedObject) (now : Int) (obj : BacnetObjectInternal) :
    BacnetObjectInternal :=
  { obj with
    name := strncpy 127 o.objectName
    description := strncpy 255 o.description
    presentValue := cachedValue o
    units := o.units % 2 ^ 16
    covIncrement := o.covIncrement
    updatedAt := now }

/-- The update half of the create: the object of the record's key is refreshed in place. -/
def refreshServerObject (s : BacnetServer) (o : CachedObject) (now : Int) : BacnetServer :=
  { s with
    objects := updateFirst (isObject o.objectType o.objectInstance) (refreshObject o now)
      s.objects }

/-- Modelled from the spec: `int bacnet_server_create_object(const cached_object_t *)` has no
body under src/. Its header says "Creates or updates a BACnet object from cache data" (0 on
success), and the registry asks the object layer to "create or refresh" the object. An
object the server holds is refreshed in place; any other goes to the create of
bacnet_server.c. -/
def bacnetServerCreateObject (s : BacnetServer) (o : CachedObject) (now : Int) :
    BacnetServer × Int :=
  if (findObject s o.objectType o.objectInstance).isSome then (refreshServerObject s o now, 0)
  else
    let created := BacnetEventServer.bacnetServerCreateObject s o.objectType o.objectInstance
      o.objectName (some o.description) (some (cachedValue o)) (o.units % 2 ^ 16)
      o.covIncrement now
    (created.1, if created.2 then 0 else -1)

/-- The `bacnet_value_t` for a value passed as a value type and a pointer to the union. -/
def taggedValue (valueType : Int) (value : PresentValue) : BacnetValue :=
  if valueType = valueTypeReal then .real value.realValue
  else if valueType = valueTypeUnsigned then .unsigned value.unsignedValue
  else if valueType = valueTypeEnumerated then .enumerated value.unsignedValue
  else if valueType = valueTypeSigned then .integer value.signedValue
  else if valueType = valueTypeBoolean then .boolean value.booleanValue
  else .null

/-- Modelled from the header: `int bacnet_server_update_value(...)` of bacnet_server.h has no
body under src/; it "automatically triggers COV notifications when needed", so it is
bacnet_server.c's update with `check_cov` set. The server keeps no status flags. -/
def bacnetServerUpdateValue (s : BacnetServer) (type : Int) (inst : Nat) (valueType : Int)
    (value : PresentValue) (now : Int) : BacnetServer × Int :=
  let updated := BacnetEventServer.bacnetServerUpdateValue s type inst
    (taggedValue valueType value) true now
  (updated.1, if updated.2 then 0 else -1)

/-- Modelled from the header: `int bacnet_server_delete_object(...)` of bacnet_server.h has no
body under src/; it is bacnet_server.c's deletion, 0 on success. -/
def bacnetServerDeleteObject (s : BacnetServer) (type : Int) (inst : Nat) :
    BacnetServer × Int :=
  let deleted := BacnetEventServer.bacnetServerDeleteObject s type inst
  (deleted.1, if deleted.2 then 0 else -1)

/-- Modelled from the spec: `bacnet_server_update_device` has no body under src/ and
bacnet_server.c has no counterpart; "every present field replaces the device
attribute". -/
def bacnetServerUpdateDevice (s : BacnetServer) (name description location : Option CStr) :
    BacnetServer :=
  { s with config := { s.config with
      deviceName := name.getD s.config.deviceName
      deviceDescription := description.getD s.config.deviceDescription
      location := location.getD s.config.location } }

end ServerApi

/-- One entry of `g_subscriptions`. -/
structure Subscription where
  subscriptionId : CStr
  instanceOffset : Nat
  deriving DecidableEq, Repr

/-- The process's state: the cache as Redis holds it, the BACnet server, and the
configured subscriptions. -/
structure Gateway where
  redis : Redis
  server : BacnetServer
  subscriptions : List Subscription

/-- The record `message_handler_process_object_definition` builds and stores. -/
def definitionRecord (msg : ObjectDefinitionMsg) (instanceOffset : Nat) (now : Int) :
    CachedObject :=
  { CachedObject.zero with
    objectType := msg.objectType
    objectInstance := (msg.objectInstance + instanceOffset) % 2 ^ 32
    objectName := strncpy 255 msg.objectName
    description := strncpy 511 msg.description
    valueType := msg.valueType
    units := msg.units
    unitsText := strncpy 63 msg.unitsText
    covIncrement := msg.covIncrement
    minValue := msg.minValue
    maxValue := msg.maxValue
    stateCount := msg.stateCount
    stateTexts := (List.range 16).map fun (i : Nat) =>
      if (i : Int) < msg.stateCount then strncpy 63 (msg.stateTexts.getD i []) else []
    inactiveText := strncpy 63 msg.inactiveText
    activeText := strncpy 63 msg.activeText
    supportsPriorityArray := msg.supportsPriorityArray
    presentValue := if msg.hasInitialValue then msg.initialValue else PresentValue.zero
    lastUpdate := now }

def messageHandlerProcessObjectDefinition (g : Gateway) (msg : ObjectDefinitionMsg)
    (instanceOffset : Nat) (now : Int) : Gateway × Int :=
  let obj := definitionRecord msg instanceOffset now
  let stored := redisCacheStoreObject g.redis obj
  if stored.2 ≠ 0 then ({ g with redis := stored.1 }, -1)
  else
    let created := ServerApi.bacnetServerCreateObject g.server obj now
    ({ g with redis := stored.1, server := created.1 }, if created.2 ≠ 0 then -1 else 0)

/-- The value types `message_handler_process_value_update` has a pointer for. -/
def knownValueType (valueType : Int) : Bool :=
  valueType = valueTypeReal ∨ valueType = valueTypeUnsigned ∨
    valueType = valueTypeEnumerated ∨ valueType = valueTypeSigned ∨ valueType = valueTypeBoolean

def messageHandlerProcessValueUpdate (g : Gateway) (msg : ValueUpdateMsg)
    (instanceOffset : Nat) (now : Int) : Gateway × Int :=
  let inst := (msg.objectInstance + instanceOffset) % 2 ^ 32
  let flags := if msg.hasStatusFlags then some msg.statusFlags else none
  if !knownValueType msg.valueType then (g, -1)
  else
    let cached := redisCacheUpdateValue g.redis msg.objectType inst msg.valueType
      msg.presentValue flags now now
    if cached.2 ≠ 0 then ({ g with redis := cached.1 }, -1)
    else
      let updated := ServerApi.bacnetServerUpdateValue g.server msg.objectType inst
        msg.valueType msg.presentValue now
      ({ g with redis := cached.1, server := updated.1 }, if updated.2 ≠ 0 then -1 else 0)

/-- Both deletions are made and neither result is looked at. -/
def messageHandlerProcessObjectDelete (g : Gateway) (msg : ObjectDeleteMsg)
    (instanceOffset : Nat) : Gateway × Int :=
  let inst := (msg.objectInstance + instanceOffset) % 2 ^ 32
  let r1 := (redisCacheDeleteObject g.redis msg.objectType inst).1
  let s1 := (ServerApi.bacnetServerDeleteObject g.server msg.objectType inst).1
  ({ g with redis := r1, server := s1 }, 0)

def messageHandlerProcessDeviceConfig (g : Gateway) (msg : DeviceConfigMsg) : Gateway × Int :=
  let s1 := ServerApi.bacnetServerUpdateDevice g.server msg.deviceName msg.deviceDescription
    msg.location
  ({ g with server := s1 }, 0)

def messageHandlerProcess (g : Gateway) (msg : ParsedMessage) (instanceOffset : Nat)
    (now : Int) : Gateway × Int :=
  match msg.payload with
  | .objectDefinition m => messageHandlerProcessObjectDefinition g m instanceOffset now
  | .valueUpdate m => messageHandlerProcessValueUpdate g m instanceOffset now
  | .objectDelete m => messageHandlerProcessObjectDelete g m instanceOffset
  | .deviceConfig m => messageHandlerProcessDeviceConfig g m

/-- `received_event_t`: the data, as what cJSON makes of it (`none`: a `NULL` pointer;
`some none`: not JSON), the subscription it came through and its stream revision. -/
structure ReceivedEvent where
  data : Option (Option Json)
  subscriptionId : CStr
  streamRevision : Nat

/-- The offset of the first configured subscription with this id, else 0. -/
def instanceOffsetOf (subs : List Subscription) (id : CStr) : Nat :=
  ((subs.find? (·.subscriptionId == id)).map (·.instanceOffset)).getD 0

/-- `on_event_received`: `true` acknowledges the event, `false` asks for a redelivery. The
stream position is stored after a successful processing; its result is not looked at. -/
def onEventReceived (g : Gateway) (e : ReceivedEvent) (now : Int) : Gateway × Bool :=
  match e.data with
  | none => (g, true)
  | some doc =>
    match messageHandlerParse doc with
    | .error _ => (g, true)
    | .ok msg =>
      let processed :=
        messageHandlerProcess g msg (instanceOffsetOf g.subscriptions e.subscriptionId) now
      if processed.2 = 0 then
        let r2 :=
          (redisCacheStoreStreamPosition processed.1.redis e.subscriptionId e.streamRevision).1
        ({ processed.1 with redis := r2 }, true)
      else (processed.1, false)

/-- Deliveries handled one after another (the callback runs under `g_mutex`), each at its
wall-clock second; the acknowledgements in order. -/
def onEvents : Gateway → List (ReceivedEvent × Int) → Gateway × List Bool
  | g, [] => (g, [])
  | g, (e, now) :: es =>
    let first := onEventReceived g e now
    let rest := onEvents first.1 es
    (rest.1, first.2 :: rest.2)

/-- `recover_from_cache`: every record `redis_cache_iterate_objects(OBJECT_TYPE_MAX, ...)`
hands over goes to `load_object_callback`, which creates it in the server and counts the
successes. -/
def recoverFromCache (g : Gateway) (now : Int) : Gateway × Nat :=
  let loaded := redisCacheIterateObjects g.redis objectTypeMax
  let created := (loaded.2.getD []).foldl
    (fun (acc : BacnetServer × Nat) o =>
      let step := ServerApi.bacnetServerCreateObject acc.1 o now
      (step.1, if step.2 = 0 then acc.2 + 1 else acc.2)) (g.server, 0)
  ({ g with redis := loaded.1, server := created.1 }, created.2)

end BacnetEventServer
