import BacnetEventServer.Pipeline
import BacnetEventServer.ServerInvariant
import Mathlib.Logic.Relation

namespace BacnetEventServer

/-- What the gateway does between two releases of its locks: the startup recovery, one
delivery, or one entry point of the server. -/
inductive GatewayOp
  | recover (now : Int)
  | deliver (e : ReceivedEvent) (now : Int)
  | server (op : ServerOp)

def gatewayStep (g : Gateway) : GatewayOp → Gateway
  | .recover now => (recoverFromCache g now).1
  | .deliver e now => (onEventReceived g e now).1
  | .server op => { g with server := op.apply g.server }

def gatewayRun (g : Gateway) (ops : List GatewayOp) : Gateway := ops.foldl gatewayStep g

theorem gatewayRun_deliver (g : Gateway) (es : List (ReceivedEvent × Int)) :
    gatewayRun g (es.map fun e => .deliver e.1 e.2) = (onEvents g es).1 := by
  induction es generalizing g with
  | nil => rfl
  | cons e es ih => exact ih _

/-- What one call of the global API can do to the server: leave it, run one entry point of
bacnet_server.c, refresh an object it holds from a record, or update the device
attributes. -/
def ServerStep (s s' : BacnetServer) : Prop :=
  s' = s ∨ (∃ op : ServerOp, s' = op.apply s) ∨
    (∃ o now, (findObject s o.objectType o.objectInstance).isSome ∧
      s' = ServerApi.refreshServerObject s o now) ∨
    ∃ name description location, s' = ServerApi.bacnetServerUpdateDevice s name description location

theorem ServerStep.refl (s : BacnetServer) : ServerStep s s := .inl rfl

theorem ServerStep.of_eq_apply {s s' : BacnetServer} (op : ServerOp) (h : s' = op.apply s) :
    ServerStep s s' :=
  .inr (.inl ⟨op, h⟩)

namespace ServerApi

variable (s : BacnetServer)

/-- The create-or-update refreshes an object the server holds or runs the create. -/
theorem bacnetServerCreateObject_serverStep (o : CachedObject) (now : Int) :
    ServerStep s (bacnetServerCreateObject s o now).1 := by
  unfold bacnetServerCreateObject
  split_ifs with hfound
  · exact .inr (.inr (.inl ⟨o, now, hfound, rfl⟩))
  · exact .of_eq_apply (.createObject o.objectType o.objectInstance o.objectName
      (some o.description) (some (cachedValue o)) (o.units % 2 ^ 16) o.covIncrement now) rfl

theorem bacnetServerUpdateValue_apply (type : Int) (inst : Nat) (valueType : Int)
    (value : PresentValue) (now : Int) :
    (bacnetServerUpdateValue s type inst valueType value now).1 =
      (ServerOp.updateValue type inst (taggedValue valueType value) true now).apply s := rfl

theorem bacnetServerDeleteObject_apply (type : Int) (inst : Nat) :
    (bacnetServerDeleteObject s type inst).1 = (ServerOp.deleteObject type inst).apply s := rfl

end ServerApi

theorem messageHandlerProcess_serverStep (g : Gateway) (msg : ParsedMessage)
    (instanceOffset : Nat) (now : Int) :
    ServerStep g.server (messageHandlerProcess g msg instanceOffset now).1.server := by
  unfold messageHandlerProcess
  split
  · dsimp only [messageHandlerProcessObjectDefinition]
    split_ifs <;> first
      | exact .refl _
      | exact ServerApi.bacnetServerCreateObject_serverStep g.server _ now
  · dsimp only [messageHandlerProcessValueUpdate]
    split
    · exact .refl _
    split <;> split <;> first
      | exact .refl _
      | exact .of_eq_apply _ (ServerApi.bacnetServerUpdateValue_apply g.server _ _ _ _ now)
  · exact .of_eq_apply _ (ServerApi.bacnetServerDeleteObject_apply g.server _ _)
  · exact .inr (.inr (.inr ⟨_, _, _, rfl⟩))

theorem onEventReceived_serverStep (g : Gateway) (e : ReceivedEvent) (now : Int) :
    ServerStep g.server (onEventReceived g e now).1.server := by
  unfold onEventReceived
  split
  · exact .refl _
  · split
    · exact .refl _
    · dsimp only
      split_ifs <;> exact messageHandlerProcess_serverStep g _ _ now

/-- `recover_from_cache` creates or refreshes the records it loads, one after another. -/
theorem recoverFromCache_serverSteps (g : Gateway) (now : Int) :
    Relation.ReflTransGen ServerStep g.server (recoverFromCache g now).1.server := by
  simp only [recoverFromCache]
  generalize (redisCacheIterateObjects g.redis objectTypeMax).2.getD [] = records
  generalize hacc : (g.server, 0) = acc
  replace hacc : acc.1 = g.server := hacc ▸ rfl
  rw [← hacc]
  clear hacc
  induction records generalizing acc with
  | nil => exact .refl
  | cons o records ih =>
    refine .head ?_ (ih _)
    exact ServerApi.bacnetServerCreateObject_serverStep acc.1 o now

theorem gatewayStep_serverSteps (g : Gateway) :
    ∀ op, Relation.ReflTransGen ServerStep g.server (gatewayStep g op).server
  | .recover now => recoverFromCache_serverSteps g now
  | .deliver e now => .single (onEventReceived_serverStep g e now)
  | .server op => .single (.of_eq_apply op rfl)

section Preserve

variable {P : BacnetServer → Prop} (hop : ∀ s (op : ServerOp), P s → P (op.apply s))
  (hrefresh : ∀ s o now, (findObject s o.objectType o.objectInstance).isSome → P s →
    P (ServerApi.refreshServerObject s o now))
  (hdevice : ∀ s name description location,
    P s → P (ServerApi.bacnetServerUpdateDevice s name description location))
include hop hrefresh hdevice

/-- A property that every kind of server step keeps holds along server steps. -/
theorem serverSteps_preserve {s s' : BacnetServer} (hsteps : Relation.ReflTransGen ServerStep s s')
    (h : P s) : P s' := by
  induction hsteps with
  | refl => exact h
  | tail _ hstep ih =>
    rcases hstep with rfl | ⟨op, rfl⟩ | ⟨o, now, hfound, rfl⟩ | ⟨name, description, location, rfl⟩
    exacts [ih, hop _ op ih, hrefresh _ o now hfound ih, hdevice _ name description location ih]

theorem gatewayRun_preserve {g : Gateway} (h : P g.server) (ops : List GatewayOp) :
    P (gatewayRun g ops).server := by
  induction ops generalizing g with
  | nil => exact h
  | cons op ops ih =>
    exact ih (serverSteps_preserve hop hrefresh hdevice (gatewayStep_serverSteps g op) h)

end Preserve

theorem refreshServerObject_wf {s : BacnetServer} (h : ServerWf s) (o : CachedObject) (now : Int) :
    ServerWf (ServerApi.refreshServerObject s o now) :=
  h.frame (updateFirst_map (ServerApi.refreshObject o now) objectKey (fun _ => rfl) _)
    rfl rfl rfl rfl rfl

theorem bacnetServerUpdateDevice_wf {s : BacnetServer} (h : ServerWf s)
    (name description location : Option CStr) :
    ServerWf (ServerApi.bacnetServerUpdateDevice s name description location) :=
  ⟨h.keys_nodup, h.objectCount_eq, h.objectCount_le, h.objectsTotal_le, h.objectsTotal_mod,
    h.identities_nodup, h.subscriptionCount_eq, h.subscriptionCount_le⟩

/-- Over every interleaving of the gateway's steps, under every pattern of Redis replies, the
server keeps `ServerWf` and the device instance and limits of its configuration. -/
theorem gatewayRun_wf (redis : Redis) (config : BacnetServerConfig)
    (subscriptions : List Subscription) (ops : List GatewayOp) :
    let s := (gatewayRun ⟨redis, bacnetServerCreate config, subscriptions⟩ ops).server
    ServerWf s ∧ s.config.deviceInstance = config.deviceInstance ∧
      s.config.maxObjects = config.maxObjects ∧
      s.config.maxCovSubscriptions = config.maxCovSubscriptions := by
  refine ⟨gatewayRun_preserve (P := ServerWf) (fun _ op h => ServerOp.apply_wf h op)
    (fun _ o now _ h => refreshServerObject_wf h o now)
    (fun _ _ _ _ h => bacnetServerUpdateDevice_wf h _ _ _) (serverWf_create config) ops, ?_⟩
  exact gatewayRun_preserve (P := fun s => s.config.deviceInstance = config.deviceInstance ∧
      s.config.maxObjects = config.maxObjects ∧
      s.config.maxCovSubscriptions = config.maxCovSubscriptions)
    (fun s op h => by simpa only [ServerOp.apply_config] using h) (fun _ _ _ _ h => h)
    (fun _ _ _ _ h => h) ⟨rfl, rfl, rfl⟩ ops

end BacnetEventServer
