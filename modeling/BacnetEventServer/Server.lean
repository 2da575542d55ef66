import BacnetEventServer.Types

namespace BacnetEventServer

/-- `bacnet_value_t`: its `type` tag with the member of that tag. The declaration is not
under src/; the tags and the member types are those bacnet_server.c uses. -/
inductive BacnetValue
  | null
  | real (f : CFloat)
  | double (d : CDouble)
  | integer (i : Int)
  | unsigned (n : Nat)
  | boolean (b : Bool)
  | enumerated (n : Nat)
  deriving DecidableEq, Repr

def valueToDouble : BacnetValue → CDouble
  | .null => CDouble.ofInt 0
  | .real f => f.toDouble
  | .double d => d
  | .integer i => CDouble.ofInt i
  | .unsigned n => CDouble.ofInt n
  | .boolean b => CDouble.ofInt (if b then 1 else 0)
  | .enumerated n => CDouble.ofInt n

/-- A non-positive increment makes any change count. -/
def valuesDifferByIncrement (v1 v2 : BacnetValue) (increment : CFloat) : Bool :=
  let d1 := valueToDouble v1
  let d2 := valueToDouble v2
  if increment.toDouble.le (CDouble.ofInt 0) then !d1.eqv d2
  else increment.toDouble.le (d1.sub d2).abs

/-- `bacnet_object_internal_t`. `out_of_service`, `number_of_states` and `state_texts` are
never set by the server's functions and are left out. -/
structure BacnetObjectInternal where
  type : Int
  inst : Nat
  name : CStr
  description : CStr
  presentValue : BacnetValue
  lastCovValue : BacnetValue
  units : Nat
  covIncrement : CFloat
  createdAt : Int
  updatedAt : Int
  deriving DecidableEq, Repr

/-- `cov_subscription_t` of bacnet_server.c; `subscriberAddress` is the first
`subscriber_address_len` bytes of the address. -/
structure CovSubscription where
  subscriberProcessId : Nat
  subscriberAddress : List UInt8
  objectType : Int
  objectInstance : Nat
  confirmed : Bool
  lifetime : Nat
  subscribedAt : Int
  deriving DecidableEq, Repr

/-- The notification `bacnet_cov_send_notifications` composes for one subscriber. -/
structure CovNotification where
  subscriberProcessId : Nat
  subscriberAddress : List UInt8
  objectType : Int
  objectInstance : Nat
  timeRemaining : Nat
  presentValue : CFloat
  confirmed : Bool
  deriving DecidableEq, Repr

/-- The configuration fields the server reads. `max_objects` is not declared in
bacnet_server.h and is kept as a natural number. -/
structure BacnetServerConfig where
  deviceInstance : Nat
  deviceName : CStr
  deviceDescription : CStr
  location : CStr
  maxObjects : Nat
  maxCovSubscriptions : Int
  deriving DecidableEq, Repr

/-- The statistics the server writes. -/
structure ServerStats where
  readRequests : Nat
  covNotificationsSent : Nat
  objectsTotal : Nat
  deriving DecidableEq, Repr

/-- `struct bacnet_server`; the two linked lists are lists in link order, and `outbox`
records the notifications handed to the BACnet stack. -/
structure BacnetServer where
  config : BacnetServerConfig
  objects : List BacnetObjectInternal
  objectCount : Nat
  covSubscriptions : List CovSubscription
  covSubscriptionCount : Nat
  running : Bool
  stats : ServerStats
  outbox : List CovNotification
  deriving DecidableEq, Repr

/-- `bacnet_server_create`: a zeroed server. -/
def bacnetServerCreate (config : BacnetServerConfig) : BacnetServer :=
  ⟨config, [], 0, [], 0, false, ⟨0, 0, 0⟩, []⟩

/-- Apply `f` to the first element that satisfies `p`. -/
def updateFirst {α : Type} (p : α → Bool) (f : α → α) : List α → List α
  | [] => []
  | a :: as => if p a then f a :: as else a :: updateFirst p f as

def isObject (type : Int) (inst : Nat) (o : BacnetObjectInternal) : Bool :=
  o.type == type && o.inst == inst

def findObject (s : BacnetServer) (type : Int) (inst : Nat) : Option BacnetObjectInternal :=
  s.objects.find? (isObject type inst)

/-- A `size_t` compared with an `int`: the `int` is converted to `size_t`. -/
def sizeT (i : Int) : Nat := (i % 2 ^ 64).toNat

def bacnetServerCreateObject (s : BacnetServer) (type : Int) (inst : Nat) (name : CStr)
    (description : Option CStr) (initialValue : Option BacnetValue) (units : Nat)
    (covIncrement : CFloat) (now : Int) : BacnetServer × Bool :=
  if (findObject s type inst).isSome then (s, false)
  else if s.objectCount ≥ s.config.maxObjects then (s, false)
  else
    let obj : BacnetObjectInternal :=
      { type, inst, units, covIncrement
        name := strncpy 127 name
        description := (description.map (strncpy 255)).getD []
        presentValue := initialValue.getD .null
        lastCovValue := initialValue.getD .null
        createdAt := now
        updatedAt := now }
    ({ s with objects := obj :: s.objects, objectCount := s.objectCount + 1,
              stats := { s.stats with objectsTotal := s.objectCount + 1 } }, true)

def bacnetServerDeleteObject (s : BacnetServer) (type : Int) (inst : Nat) :
    BacnetServer × Bool :=
  match findObject s type inst with
  | none => (s, false)
  | some _ =>
    ({ s with objects := s.objects.eraseP (isObject type inst),
              objectCount := s.objectCount - 1,
              stats := { s.stats with objectsTotal := s.objectCount - 1 } }, true)

def covTarget (type : Int) (inst : Nat) (sub : CovSubscription) : Bool :=
  sub.objectType == type && sub.objectInstance == inst && 0 < sub.lifetime

def notificationFor (obj : BacnetObjectInternal) (sub : CovSubscription) : CovNotification :=
  ⟨sub.subscriberProcessId, sub.subscriberAddress, obj.type, obj.inst, sub.lifetime,
    CFloat.ofDouble (valueToDouble obj.presentValue), sub.confirmed⟩

/-- `obj->last_cov_value = obj->present_value`. -/
def markCovValue (o : BacnetObjectInternal) : BacnetObjectInternal :=
  { o with lastCovValue := o.presentValue }

/-- `bacnet_cov_send_notifications`: record the present value as the last notified one and
notify every subscription of the object whose lifetime is positive. -/
def bacnetCovSendNotifications (s : BacnetServer) (type : Int) (inst : Nat) :
    BacnetServer × Bool :=
  match findObject s type inst with
  | none => (s, false)
  | some obj =>
    let targets := s.covSubscriptions.filter (covTarget type inst)
    ({ s with objects := updateFirst (isObject type inst) markCovValue s.objects,
              stats := { s.stats with
                covNotificationsSent := s.stats.covNotificationsSent + targets.length },
              outbox := s.outbox ++ targets.map (notificationFor obj) }, 0 < targets.length)

/-- The writes of `bacnet_server_update_value` to the object found. -/
def writePresentValue (value : BacnetValue) (now : Int) (o : BacnetObjectInternal) :
    BacnetObjectInternal :=
  { o with presentValue := value, updatedAt := now }

def bacnetServerUpdateValue (s : BacnetServer) (type : Int) (inst : Nat) (value : BacnetValue)
    (checkCov : Bool) (now : Int) : BacnetServer × Bool :=
  match findObject s type inst with
  | none => (s, false)
  | some obj =>
    let write := writePresentValue value now
    let s1 := { s with objects := updateFirst (isObject type inst) write s.objects }
    if checkCov && valuesDifferByIncrement obj.presentValue value obj.covIncrement then
      ((bacnetCovSendNotifications s1 type inst).1, true)
    else (s1, true)

/-- One subscription through the lifetime loop: a positive lifetime counts down and the
subscription goes when it reaches zero; a zero lifetime is left alone. -/
def tickSubscription (sub : CovSubscription) : Option CovSubscription :=
  if 0 < sub.lifetime then
    if sub.lifetime - 1 = 0 then none else some { sub with lifetime := sub.lifetime - 1 }
  else some sub

def bacnetCovUpdateLifetimes (s : BacnetServer) : BacnetServer :=
  let kept := s.covSubscriptions.filterMap tickSubscription
  { s with covSubscriptions := kept,
           covSubscriptionCount :=
             s.covSubscriptionCount - (s.covSubscriptions.length - kept.length) }

/-- One pass of the loop of `bacnet_task_thread_func` at clock reading `now`, with the time
of the last lifetime update: the lifetimes are updated once whenever the clock has moved
on, by however many seconds. -/
def covCheckTick (st : BacnetServer × Int) (now : Int) : BacnetServer × Int :=
  if now > st.2 then (bacnetCovUpdateLifetimes st.1, now) else st

/-- `bacnet_task_thread_func` over the clock readings of its passes while the server runs,
`last_cov_check` starting at `start`. -/
def bacnetTaskThreadFunc (s : BacnetServer) (start : Int) (readings : List Int) :
    BacnetServer × Int :=
  readings.foldl covCheckTick (s, start)

def sameSubscriber (type : Int) (inst pid : Nat) (addr : List UInt8)
    (sub : CovSubscription) : Bool :=
  sub.objectType == type && sub.objectInstance == inst && sub.subscriberProcessId == pid &&
    sub.subscriberAddress == addr

/-- The writes of `bacnet_cov_subscribe` to an existing subscription. -/
def renewSubscription (confirmed : Bool) (lifetime : Nat) (now : Int) (sub : CovSubscription) :
    CovSubscription :=
  { sub with lifetime := lifetime, confirmed := confirmed, subscribedAt := now }

def bacnetCovSubscribe (s : BacnetServer) (type : Int) (inst pid : Nat) (addr : List UInt8)
    (confirmed : Bool) (lifetime : Nat) (now : Int) : BacnetServer × Bool :=
  if 32 < addr.length then (s, false)
  else if (findObject s type inst).isNone then (s, false)
  else if s.covSubscriptionCount ≥ sizeT s.config.maxCovSubscriptions then (s, false)
  else if s.covSubscriptions.any (sameSubscriber type inst pid addr) then
    let renew := renewSubscription confirmed lifetime now
    ({ s with covSubscriptions :=
        updateFirst (sameSubscriber type inst pid addr) renew s.covSubscriptions }, true)
  else
    ({ s with covSubscriptions := ⟨pid, addr, type, inst, confirmed, lifetime, now⟩ ::
                s.covSubscriptions,
              covSubscriptionCount := s.covSubscriptionCount + 1 }, true)

/-- The subscriptions `bacnet_cov_unsubscribe` matches; a `NULL` address matches any. -/
def unsubscribeMatch (type : Int) (inst pid : Nat) (addr : Option (List UInt8))
    (sub : CovSubscription) : Bool :=
  sub.objectType == type && sub.objectInstance == inst && sub.subscriberProcessId == pid &&
    addr.all (sub.subscriberAddress == ·)

def bacnetCovUnsubscribe (s : BacnetServer) (type : Int) (inst pid : Nat)
    (addr : Option (List UInt8)) : BacnetServer × Bool :=
  if s.covSubscriptions.any (unsubscribeMatch type inst pid addr) then
    ({ s with covSubscriptions := s.covSubscriptions.eraseP (unsubscribeMatch type inst pid addr),
              covSubscriptionCount := s.covSubscriptionCount - 1 }, true)
  else (s, false)

/-- `bacnet_server_reset_stats`: zero the statistics but keep `objects_total`, passed
through a `uint32_t`. -/
def bacnetServerResetStats (s : BacnetServer) : BacnetServer :=
  { s with stats := ⟨0, 0, s.stats.objectsTotal % 2 ^ 32⟩ }

end BacnetEventServer
