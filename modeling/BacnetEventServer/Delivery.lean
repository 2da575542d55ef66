import BacnetEventServer.Pipeline

namespace BacnetEventServer

@[simp]
def Command.isHset : Command → Bool
  | .hset _ _ => true
  | _ => false

/-- The commands that write an object's blob. -/
@[simp]
def Command.writesBlob : Command → Bool
  | .set _ _ | .del _ => true
  | _ => false

namespace Redis

@[simp]
theorem apply_connected (r : Redis) (c : Command) : (r.apply c).connected = r.connected := by
  cases c <;> rfl

@[simp]
theorem apply_replies (r : Redis) (c : Command) : (r.apply c).replies = r.replies := by
  cases c <;> rfl

theorem apply_positions (r : Redis) {c : Command} (hc : c.isHset = false) :
    (r.apply c).positions = r.positions := by
  cases c <;> first | rfl | cases hc

theorem exec_positions (r : Redis) {c : Command} (hc : c.isHset = false) :
    (r.exec c).1.positions = r.positions := by
  unfold exec
  split
  · rfl
  · dsimp only
    split <;> split <;> simp only [apply_positions _ hc]

theorem apply_objects (r : Redis) {c : Command} (hc : c.writesBlob = false) :
    (r.apply c).objects = r.objects := by
  cases c <;> first | rfl | cases hc

theorem exec_objects (r : Redis) {c : Command} (hc : c.writesBlob = false) :
    (r.exec c).1.objects = r.objects := by
  unfold exec
  split
  · rfl
  · dsimp only
    split <;> split <;> simp only [apply_objects _ hc]

theorem exec_set_objects_of_ok (r : Redis) (k : ObjectKey) (b : Blob)
    (h : (r.exec (.set k b)).2 = .ok) :
    (r.exec (.set k b)).1.objects = Function.update r.objects k (some b) := by
  unfold exec at h ⊢
  split at h
  · cases h
  · rw [if_neg ‹_›]
    dsimp only at h ⊢
    rw [h]
    rfl

/-- With no failure scripted, a command on a live context gets `OK`. -/
theorem exec_of_replies_nil (r : Redis) (c : Command) (hc : r.connected = true)
    (hr : r.replies = []) :
    (r.exec c).2 = .ok ∧ (r.exec c).1.connected = true ∧ (r.exec c).1.replies = [] := by
  unfold exec
  simp [hc, hr, Reply.applied]

theorem exec_hset_positions (r : Redis) (f : CStr) (p : Nat) (k : CStr) :
    (r.exec (.hset f p)).1.positions k = r.positions k ∨
      (k = f ∧ (r.exec (.hset f p)).1.positions k = some p) := by
  unfold exec
  split
  · exact .inl rfl
  · dsimp only
    by_cases hk : k = f <;> split <;> split <;> simp [apply, hk]

end Redis

theorem redisCacheStoreObject_positions (r : Redis) (o : CachedObject) :
    (redisCacheStoreObject r o).1.positions = r.positions := by
  unfold redisCacheStoreObject
  dsimp only
  split_ifs <;> simp only [Redis.exec_positions, Command.isHset]

theorem redisCacheLoadObject_positions (r : Redis) (t : Int) (i : Nat) :
    (redisCacheLoadObject r t i).1.positions = r.positions := by
  unfold redisCacheLoadObject
  dsimp only
  split_ifs
  · rfl
  all_goals (try split) <;> simp only [Redis.exec_positions, Command.isHset]

theorem redisCacheUpdateValue_positions (r : Redis) (t : Int) (i : Nat) (valueType : Int)
    (value : PresentValue) (flags : Option StatusFlags) (sourceTimestamp now : Int) :
    (redisCacheUpdateValue r t i valueType value flags sourceTimestamp now).1.positions =
      r.positions := by
  unfold redisCacheUpdateValue
  dsimp only
  split
  · rfl
  · split <;> simp [redisCacheStoreObject_positions, redisCacheLoadObject_positions]

theorem redisCacheDeleteObject_positions (r : Redis) (t : Int) (i : Nat) :
    (redisCacheDeleteObject r t i).1.positions = r.positions := by
  unfold redisCacheDeleteObject
  split_ifs <;> simp only [Redis.exec_positions, Command.isHset]

theorem redisCacheStoreStreamPosition_positions (r : Redis) (f : CStr) (p : Nat) (k : CStr) :
    (redisCacheStoreStreamPosition r f p).1.positions k = r.positions k ∨
      (k = f ∧ (redisCacheStoreStreamPosition r f p).1.positions k = some p) := by
  unfold redisCacheStoreStreamPosition
  split_ifs
  · exact .inl rfl
  · exact r.exec_hset_positions f p k

theorem redisCacheStoreObject_objects {r : Redis} {o : CachedObject}
    (h : (redisCacheStoreObject r o).2 = 0) :
    (redisCacheStoreObject r o).1.objects (o.objectType, o.objectInstance) =
      some (renderObject o) := by
  unfold redisCacheStoreObject at h ⊢
  dsimp only at h ⊢
  split_ifs at h ⊢ with hc hset
  · cases h
  · cases h
  · rw [Redis.exec_objects _ (c := .sadd _) rfl,
      Redis.exec_set_objects_of_ok _ _ _ (by simpa using hset)]
    exact Function.update_same _ _ _

set_option maxRecDepth 2000 in
/-- The `SADD` of a definition fails after its `SET` succeeded: the event is acknowledged
and its position stored while the object is missing from the index. A device
configuration is acknowledged without any write to the cache. -/
theorem acknowledged_events_not_in_cache :
    let g : Gateway := ⟨⟨true, fun _ => none, [], fun _ => none, none, [.ok, .error], []⟩,
      bacnetServerCreate ⟨1, [], [], [], 10, 10⟩, [⟨lit "sub", 0⟩]⟩
    let definition : ReceivedEvent := ⟨some (some (.object
      [(lit "messageType", .string (lit "ObjectDefinition")), (lit "sourceId", .string (lit "s1")),
        (lit "payload", .object [(lit "objectType", .string (lit "analog-input")),
          (lit "objectInstance", .number (CDouble.ofInt 1)),
          (lit "objectName", .string (lit "T")),
          (lit "presentValueType", .string (lit "real"))])])), lit "sub", 10⟩
    let device : ReceivedEvent := ⟨some (some (.object
      [(lit "messageType", .string (lit "DeviceConfig")), (lit "sourceId", .string (lit "s1")),
        (lit "payload", .object [(lit "deviceName", .string (lit "D"))])])), lit "sub", 11⟩
    (onEventReceived g definition 5).2 = true ∧
    (onEventReceived g definition 5).1.redis.index = [] ∧
    (onEventReceived g definition 5).1.redis.positions (lit "sub") = some 10 ∧
    (onEventReceived g device 5).2 = true ∧
    (onEventReceived g device 5).1.redis.deviceConfig = none := by
  decide

theorem messageHandlerProcess_positions (g : Gateway) (msg : ParsedMessage)
    (instanceOffset : Nat) (now : Int) :
    (messageHandlerProcess g msg instanceOffset now).1.redis.positions = g.redis.positions := by
  unfold messageHandlerProcess
  split
  · unfold messageHandlerProcessObjectDefinition
    dsimp only
    split_ifs <;> exact redisCacheStoreObject_positions _ _
  · unfold messageHandlerProcessValueUpdate
    dsimp only
    split_ifs <;> first | rfl | exact redisCacheUpdateValue_positions _ _ _ _ _ _ _ _
  · exact redisCacheDeleteObject_positions _ _ _
  · rfl

/-- The message cJSON and `message_handler_parse` make of the event's data, if any. -/
def ReceivedEvent.message (e : ReceivedEvent) : Option ParsedMessage :=
  match e.data with
  | some doc => (messageHandlerParse doc).toOption
  | none => none

/-- Whether the event's data decodes to a message. -/
def ReceivedEvent.decodes (e : ReceivedEvent) : Bool := e.message.isSome

/-- A delivery stores a position only for an acknowledged event of that subscription. -/
theorem onEventReceived_positions (g : Gateway) (e : ReceivedEvent) (now : Int) (sub : CStr) :
    (onEventReceived g e now).1.redis.positions sub = g.redis.positions sub ∨
      (e.subscriptionId = sub ∧
        (onEventReceived g e now).1.redis.positions sub = some e.streamRevision ∧
        (onEventReceived g e now).2 = true ∧ e.decodes = true) := by
  unfold onEventReceived
  split
  · exact .inl rfl
  · rename_i doc hdata
    split
    · exact .inl rfl
    · rename_i msg hparse
      dsimp only
      have hproc := messageHandlerProcess_positions g msg
        (instanceOffsetOf g.subscriptions e.subscriptionId) now
      split_ifs
      · rcases redisCacheStoreStreamPosition_positions _ e.subscriptionId e.streamRevision sub
          with hkeep | ⟨rfl, hset⟩
        · exact .inl (hkeep.trans (congrFun hproc sub))
        · refine .inr ⟨rfl, hset, rfl, ?_⟩
          simp [ReceivedEvent.decodes, ReceivedEvent.message, hdata, hparse]
          rfl
      · exact .inl (congrFun hproc sub)

/-- Over every run, a subscription's stored position is the one it had before the run or
the revision of an event of that subscription that decoded and was acknowledged. -/
theorem stream_position_from_acknowledged_event (g : Gateway) (es : List (ReceivedEvent × Int))
    (sub : CStr) :
    (onEvents g es).1.redis.positions sub = g.redis.positions sub ∨
      ∃ p ∈ es.zip (onEvents g es).2, p.1.1.subscriptionId = sub ∧
        (onEvents g es).1.redis.positions sub = some p.1.1.streamRevision ∧
        p.2 = true ∧ p.1.1.decodes = true := by
  induction es generalizing g with
  | nil => exact .inl rfl
  | cons en es ih =>
    obtain ⟨e, now⟩ := en
    rcases ih (onEventReceived g e now).1 with hkeep | ⟨p, hp, hsub⟩
    · rcases onEventReceived_positions g e now sub with hfirst | ⟨hid, hset, hack, hdec⟩
      · exact .inl (hkeep.trans hfirst)
      · exact .inr ⟨((e, now), (onEventReceived g e now).2), List.mem_cons_self _ _, hid,
          hkeep.trans hset, hack, hdec⟩
    · exact .inr ⟨p, List.mem_cons_of_mem _ hp, hsub⟩

set_option maxRecDepth 20000 in
/-- An event of a subscription fails and is redelivered after its successor succeeded: the
stored position first passes the failed event, then goes back. -/
theorem stream_position_skips_then_decreases :
    let g : Gateway := ⟨⟨true, fun _ => none, [], fun _ => none, none, [], []⟩,
      bacnetServerCreate ⟨1, [], [], [], 10, 10⟩, [⟨lit "sub", 0⟩]⟩
    let update : ReceivedEvent := ⟨some (some (.object
      [(lit "messageType", .string (lit "ValueUpdate")), (lit "sourceId", .string (lit "s1")),
        (lit "payload", .object [(lit "objectType", .string (lit "analog-input")),
          (lit "objectInstance", .number (CDouble.ofInt 1)),
          (lit "presentValue", .number (CDouble.ofInt 21))])])), lit "sub", 11⟩
    let definition : ReceivedEvent := ⟨some (some (.object
      [(lit "messageType", .string (lit "ObjectDefinition")), (lit "sourceId", .string (lit "s1")),
        (lit "payload", .object [(lit "objectType", .string (lit "analog-input")),
          (lit "objectInstance", .number (CDouble.ofInt 1)),
          (lit "objectName", .string (lit "T")),
          (lit "presentValueType", .string (lit "real"))])])), lit "sub", 12⟩
    (onEvents g [(update, 1), (definition, 2)]).2 = [false, true] ∧
    (onEvents g [(update, 1), (definition, 2)]).1.redis.positions (lit "sub") = some 12 ∧
    (onEvents g [(update, 1), (definition, 2), (update, 3)]).2 = [false, true, true] ∧
    (onEvents g [(update, 1), (definition, 2), (update, 3)]).1.redis.positions (lit "sub") =
      some 11 := by
  decide

end BacnetEventServer
