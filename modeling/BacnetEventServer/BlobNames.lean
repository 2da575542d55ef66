import BacnetEventServer.Decoder
import BacnetEventServer.Delivery
import BacnetEventServer.GatewayRun

namespace BacnetEventServer

/-- The object a decoded payload is about, its instance moved by the subscription's
offset; a device configuration is about none. -/
def ParsedPayload.target (instanceOffset : Nat) : ParsedPayload → Option ObjectKey
  | .objectDefinition m => some (m.objectType, (m.objectInstance + instanceOffset) % 2 ^ 32)
  | .valueUpdate m => some (m.objectType, (m.objectInstance + instanceOffset) % 2 ^ 32)
  | .objectDelete m => some (m.objectType, (m.objectInstance + instanceOffset) % 2 ^ 32)
  | .deviceConfig _ => none

/-- The object a delivered event is about, if it decodes. -/
def ReceivedEvent.target (subs : List Subscription) (e : ReceivedEvent) : Option ObjectKey :=
  e.message.bind fun msg => msg.payload.target (instanceOffsetOf subs e.subscriptionId)

theorem ReceivedEvent.message_eq_some {e : ReceivedEvent} {msg : ParsedMessage} :
    e.message = some msg ↔ ∃ doc, e.data = some doc ∧ messageHandlerParse doc = .ok msg := by
  unfold ReceivedEvent.message
  split
  · rename_i doc hdata
    cases h : messageHandlerParse doc <;> simp [hdata, h, Except.toOption]
  · simp_all

/-- A key whose type fits an `int` and whose instance a `uint32_t`, as the store prints them. -/
def KeyFits (k : ObjectKey) : Prop := (-2 ^ 31 ≤ k.1 ∧ k.1 < 2 ^ 31) ∧ k.2 < 2 ^ 32

section Decoded

theorem ite_le_of_le {c : Prop} [Decidable c] {a b n : Int} (ha : a ≤ n) (hb : b ≤ n) :
    (if c then a else b) ≤ n := by
  split <;> assumption

theorem parseObjectType_le (s : CStr) : parseObjectType s ≤ 19 := by
  unfold parseObjectType
  repeat' apply ite_le_of_le
  all_goals decide

theorem parseObjectId_fits {payload : Json} {t : Int} {i : Nat}
    (h : parseObjectId payload = .ok (t, i)) : 0 ≤ t ∧ t ≤ 19 := by
  rw [parseObjectId_eq] at h
  split at h
  · cases h
  · split_ifs at h with hneg
    cases h
    exact ⟨by omega, parseObjectType_le _⟩

theorem parseObjectDefinition_id {payload : Json} {m : ObjectDefinitionMsg}
    (h : parseObjectDefinition payload = .ok m) :
    parseObjectId payload = .ok (m.objectType, m.objectInstance) := by
  unfold parseObjectDefinition at h
  cases hid : parseObjectId payload with
  | error e => simp [hid, bind, Except.bind] at h
  | ok key =>
    cases hname : getStringSafe payload (lit "objectName") none with
    | none => simp [hid, hname, required, bind, Except.bind] at h
    | some name =>
      cases hpvt : getStringSafe payload (lit "presentValueType") none with
      | none => simp [hid, hname, hpvt, required, bind, Except.bind] at h
      | some pvt =>
        simp [hid, hname, hpvt, required, bind, Except.bind, pure, Except.pure] at h
        rw [← h]

theorem parseValueUpdate_id {payload : Json} {m : ValueUpdateMsg}
    (h : parseValueUpdate payload = .ok m) :
    parseObjectId payload = .ok (m.objectType, m.objectInstance) := by
  unfold parseValueUpdate at h
  cases hid : parseObjectId payload with
  | error e => simp [hid, bind, Except.bind] at h
  | ok key =>
    cases hitem : payload.getObjectItem (lit "presentValue") with
    | none => simp [hid, hitem, required, bind, Except.bind] at h
    | some item =>
      simp [hid, hitem, required, bind, Except.bind, pure, Except.pure] at h
      rw [← h]

theorem parseObjectDelete_id {payload : Json} {m : ObjectDeleteMsg}
    (h : parseObjectDelete payload = .ok m) :
    parseObjectId payload = .ok (m.objectType, m.objectInstance) := by
  unfold parseObjectDelete at h
  cases hid : parseObjectId payload with
  | error e => simp [hid, bind, Except.bind] at h
  | ok key =>
    simp [hid, bind, Except.bind, pure, Except.pure] at h
    rw [← h]

theorem messageHandlerParse_payload {doc : Option Json} {msg : ParsedMessage}
    (h : messageHandlerParse doc = .ok msg) :
    ∃ payload, (∀ m, msg.payload = .objectDefinition m → parseObjectDefinition payload = .ok m) ∧
      (∀ m, msg.payload = .valueUpdate m → parseValueUpdate payload = .ok m) ∧
      (∀ m, msg.payload = .objectDelete m → parseObjectDelete payload = .ok m) := by
  unfold messageHandlerParse at h
  simp only [bind, Except.bind, required, pure, Except.pure] at h
  repeat' (split at h <;> (try cases h))
  all_goals first
    | rename_i payload _ _ _ _ body hbody
      refine ⟨payload, fun m hm => ?_, fun m hm => ?_, fun m hm => ?_⟩ <;>
        dsimp only at hm <;> subst hm <;> revert hbody <;>
        simp only [Functor.map, Except.map] <;> split <;> simp_all
    | refine ⟨.null, fun _ hm => ?_, fun _ hm => ?_, fun _ hm => ?_⟩ <;> simp at hm

/-- Every object a decoded message is about fits an `int` type and a `uint32_t` instance. -/
theorem messageHandlerParse_target_fits {doc : Option Json} {msg : ParsedMessage}
    (h : messageHandlerParse doc = .ok msg) (instanceOffset : Nat) {k : ObjectKey}
    (hk : msg.payload.target instanceOffset = some k) : KeyFits k := by
  obtain ⟨payload, hdef, hupd, hdel⟩ := messageHandlerParse_payload h
  have hinst : ∀ n : Nat, n % 2 ^ 32 < 2 ^ 32 := fun n => Nat.mod_lt n (by norm_num)
  cases hp : msg.payload with
  | objectDefinition m =>
    rw [hp, ParsedPayload.target] at hk
    obtain rfl := Option.some.inj hk
    have := parseObjectId_fits (parseObjectDefinition_id (hdef m hp))
    exact ⟨⟨by omega, by omega⟩, hinst _⟩
  | valueUpdate m =>
    rw [hp, ParsedPayload.target] at hk
    obtain rfl := Option.some.inj hk
    have := parseObjectId_fits (parseValueUpdate_id (hupd m hp))
    exact ⟨⟨by omega, by omega⟩, hinst _⟩
  | objectDelete m =>
    rw [hp, ParsedPayload.target] at hk
    obtain rfl := Option.some.inj hk
    have := parseObjectId_fits (parseObjectDelete_id (hdel m hp))
    exact ⟨⟨by omega, by omega⟩, hinst _⟩
  | deviceConfig m => rw [hp, ParsedPayload.target] at hk; cases hk

end Decoded

/-- A record that names the object of its key: the load reads back the key's type and
instance. -/
def BlobNamesKey (k : ObjectKey) (j : Json) : Prop :=
  ((objectOfJson k.1 k.2 j).objectType, (objectOfJson k.1 k.2 j).objectInstance) = k

/-- Every readable record names the object of its key, so that `load_object_callback` and
`redis_cache_update_value` act on the object of the key they read. -/
def BlobsNameKeys (r : Redis) : Prop := ∀ k j, r.objects k = some (some j) → BlobNamesKey k j

theorem BlobsNameKeys.of_objects {r r' : Redis} (h : BlobsNameKeys r)
    (heq : r'.objects = r.objects) : BlobsNameKeys r' :=
  fun k j hj => h k j (heq ▸ hj)

/-- What a command may write: a `SET` whose blob, when readable, names its key. -/
def Command.NamesKey : Command → Prop
  | .set k b => ∀ j, b = some j → BlobNamesKey k j
  | _ => True

/-- The commands that leave the blob of `k` as it is. -/
def Command.SparesBlob : Command → ObjectKey → Prop
  | .set k' _, k | .del k', k => k' ≠ k
  | _, _ => True

namespace Redis

variable {r : Redis}

theorem apply_blobsNameKeys (h : BlobsNameKeys r) {c : Command} (hc : c.NamesKey) :
    BlobsNameKeys (r.apply c) := by
  intro k j hj
  cases c with
  | set k' b =>
    by_cases hk : k = k'
    · subst hk
      simp only [apply, Function.update_same, Option.some.injEq] at hj
      exact hc j hj
    · simp only [apply, Function.update_noteq hk] at hj
      exact h k j hj
  | del k' =>
    by_cases hk : k = k'
    · subst hk
      simp [apply] at hj
    · simp only [apply, Function.update_noteq hk] at hj
      exact h k j hj
  | get _ | sadd _ | srem _ | smembers | hset _ _ | hget _ | hmset _ _ _ => exact h k j hj

theorem exec_blobsNameKeys (h : BlobsNameKeys r) {c : Command} (hc : c.NamesKey) :
    BlobsNameKeys (r.exec c).1 := by
  have happly := apply_blobsNameKeys
    (r := { r with replies := r.replies.tail, log := r.log ++ [(c, r.replies.headD .ok)] }) h hc
  unfold exec
  split
  · exact h
  · dsimp only
    split <;> split <;> first | exact happly | exact h

theorem exec_objects_of_spares (r : Redis) {c : Command} {k : ObjectKey} (hc : c.SparesBlob k) :
    (r.exec c).1.objects k = r.objects k := by
  have happly : ∀ r' : Redis, (r'.apply c).objects k = r'.objects k := by
    intro r'
    cases c with
    | set k' _ => exact Function.update_noteq (Ne.symm hc) _ _
    | del k' => exact Function.update_noteq (Ne.symm hc) _ _
    | get _ | sadd _ | srem _ | smembers | hset _ _ | hget _ | hmset _ _ _ => rfl
  unfold exec
  split
  · rfl
  · dsimp only
    split <;> split <;> simp only [happly]

end Redis

section CacheOps

variable (r : Redis)

theorem redisCacheLoadObject_fst (t : Int) (i : Nat) :
    (redisCacheLoadObject r t i).1 =
      if !redisCacheIsConnected r then r else (r.exec (.get (t, i))).1 := by
  unfold redisCacheLoadObject
  split_ifs
  · rfl
  · dsimp only
    split_ifs
    · rfl
    · split <;> rfl

theorem redisCacheLoadObject_objects (t : Int) (i : Nat) :
    (redisCacheLoadObject r t i).1.objects = r.objects := by
  rw [redisCacheLoadObject_fst]
  split_ifs
  exacts [rfl, r.exec_objects rfl]

theorem redisCacheLoadObject_some {t : Int} {i : Nat} {o : CachedObject}
    (h : (redisCacheLoadObject r t i).2 = some o) :
    ∃ j, r.objects (t, i) = some (some j) ∧ o = objectOfJson t i j := by
  unfold redisCacheLoadObject at h
  split_ifs at h
  · dsimp only at h
    split_ifs at h
    split at h
    · exact ⟨_, ‹_›, (Option.some.inj h).symm⟩
    · cases h

theorem redisCacheStoreStreamPosition_objects (subscriptionId : CStr) (position : Nat) :
    (redisCacheStoreStreamPosition r subscriptionId position).1.objects = r.objects := by
  unfold redisCacheStoreStreamPosition
  split_ifs
  exacts [rfl, r.exec_objects (c := .hset _ _) rfl]

variable {r}

/-- A record stored with a fitting key names it whenever its text reads. -/
theorem redisCacheStoreObject_blobsNameKeys (h : BlobsNameKeys r) {o : CachedObject}
    (hfits : KeyFits (o.objectType, o.objectInstance)) :
    BlobsNameKeys (redisCacheStoreObject r o).1 := by
  have hset : Command.NamesKey (.set (o.objectType, o.objectInstance) (renderObject o)) :=
    fun j hj => objectOfJson_key_of_renderObject hfits.1 hfits.2 hj _ _
  unfold redisCacheStoreObject
  dsimp only
  split_ifs
  · exact h
  · exact Redis.exec_blobsNameKeys h hset
  · exact Redis.exec_blobsNameKeys (Redis.exec_blobsNameKeys h hset) trivial

/-- The update stores the record it loaded, which names the key it was loaded from. -/
theorem redisCacheUpdateValue_blobsNameKeys (h : BlobsNameKeys r) {t : Int} {i : Nat}
    (hfits : KeyFits (t, i)) (valueType : Int) (value : PresentValue) (flags : Option StatusFlags)
    (sourceTimestamp now : Int) :
    BlobsNameKeys (redisCacheUpdateValue r t i valueType value flags sourceTimestamp now).1 := by
  have hloaded : BlobsNameKeys (redisCacheLoadObject r t i).1 :=
    h.of_objects (redisCacheLoadObject_objects r t i)
  unfold redisCacheUpdateValue
  split
  · exact h
  · dsimp only
    split
    · exact hloaded
    · rename_i obj hobj
      obtain ⟨j, hj, rfl⟩ := redisCacheLoadObject_some r hobj
      have hkey : ((objectOfJson t i j).objectType, (objectOfJson t i j).objectInstance) =
          (t, i) := h (t, i) j hj
      exact redisCacheStoreObject_blobsNameKeys hloaded (o := updatedRecord _ _ _ _ _ _)
        (by show KeyFits ((objectOfJson t i j).objectType, (objectOfJson t i j).objectInstance)
            rw [hkey]; exact hfits)

theorem redisCacheDeleteObject_blobsNameKeys (h : BlobsNameKeys r) (t : Int) (i : Nat) :
    BlobsNameKeys (redisCacheDeleteObject r t i).1 := by
  unfold redisCacheDeleteObject
  split_ifs
  · exact h
  · exact Redis.exec_blobsNameKeys (c := .srem _) (Redis.exec_blobsNameKeys (c := .del _) h trivial)
      trivial

theorem redisCacheStoreObject_objects_of_ne {o : CachedObject} {k : ObjectKey}
    (hne : (o.objectType, o.objectInstance) ≠ k) :
    (redisCacheStoreObject r o).1.objects k = r.objects k := by
  unfold redisCacheStoreObject
  dsimp only
  split_ifs
  · rfl
  · exact r.exec_objects_of_spares (c := .set _ _) hne
  · rw [Redis.exec_objects_of_spares _ (c := .sadd _) trivial,
      r.exec_objects_of_spares (c := .set _ _) hne]

/-- An update of another key leaves a blob, when every readable record names its key. -/
theorem redisCacheUpdateValue_objects_of_ne (h : BlobsNameKeys r) {t : Int} {i : Nat}
    {k : ObjectKey} (hne : (t, i) ≠ k) (valueType : Int) (value : PresentValue)
    (flags : Option StatusFlags) (sourceTimestamp now : Int) :
    (redisCacheUpdateValue r t i valueType value flags sourceTimestamp now).1.objects k =
      r.objects k := by
  have hloaded := redisCacheLoadObject_objects r t i
  unfold redisCacheUpdateValue
  split
  · rfl
  · dsimp only
    split
    · rw [hloaded]
    · rename_i obj hobj
      obtain ⟨j, hj, rfl⟩ := redisCacheLoadObject_some r hobj
      have hkey : ((objectOfJson t i j).objectType, (objectOfJson t i j).objectInstance) =
          (t, i) := h (t, i) j hj
      rw [redisCacheStoreObject_objects_of_ne (o := updatedRecord _ _ _ _ _ _)
        (by show ((objectOfJson t i j).objectType, (objectOfJson t i j).objectInstance) ≠ k
            rw [hkey]; exact hne), hloaded]

/-- An update that reports success has stored back the record it loaded. -/
theorem redisCacheUpdateValue_objects_of_eq_zero (h : BlobsNameKeys r) {t : Int} {i : Nat}
    {valueType : Int} {value : PresentValue} {flags : Option StatusFlags} {sourceTimestamp now : Int}
    (hok : (redisCacheUpdateValue r t i valueType value flags sourceTimestamp now).2 = 0) :
    ∃ x, (redisCacheLoadObject r t i).2 = some x ∧
      (redisCacheUpdateValue r t i valueType value flags sourceTimestamp now).1.objects (t, i) =
        some (renderObject (updatedRecord x valueType value flags sourceTimestamp now)) := by
  unfold redisCacheUpdateValue at hok ⊢
  split at hok
  · cases hok
  · dsimp only at hok ⊢
    split at hok
    · cases hok
    · rename_i obj hobj
      refine ⟨obj, hobj, ?_⟩
      rw [if_neg ‹_›]
      obtain ⟨j, hj, rfl⟩ := redisCacheLoadObject_some r hobj
      have hkey : ((objectOfJson t i j).objectType, (objectOfJson t i j).objectInstance) =
          (t, i) := h (t, i) j hj
      have hstored := redisCacheStoreObject_objects (o := updatedRecord _ _ _ _ _ _) hok
      exact hkey ▸ hstored

theorem redisCacheDeleteObject_objects_of_ne {t : Int} {i : Nat} {k : ObjectKey}
    (hne : (t, i) ≠ k) : (redisCacheDeleteObject r t i).1.objects k = r.objects k := by
  unfold redisCacheDeleteObject
  split_ifs
  · rfl
  · rw [Redis.exec_objects_of_spares _ (c := .srem _) trivial,
      r.exec_objects_of_spares (c := .del _) hne]

end CacheOps

section Process

variable {g : Gateway}

theorem messageHandlerProcess_subscriptions (g : Gateway) (msg : ParsedMessage)
    (instanceOffset : Nat) (now : Int) :
    (messageHandlerProcess g msg instanceOffset now).1.subscriptions = g.subscriptions := by
  unfold messageHandlerProcess messageHandlerProcessObjectDefinition
    messageHandlerProcessValueUpdate
  split <;> (try dsimp only) <;> (try split_ifs) <;> rfl

theorem onEventReceived_subscriptions (g : Gateway) (e : ReceivedEvent) (now : Int) :
    (onEventReceived g e now).1.subscriptions = g.subscriptions := by
  unfold onEventReceived
  split
  · rfl
  · split
    · rfl
    · dsimp only
      split_ifs <;> exact messageHandlerProcess_subscriptions _ _ _ _

theorem messageHandlerProcess_blobsNameKeys (h : BlobsNameKeys g.redis) {msg : ParsedMessage}
    {instanceOffset : Nat} (hfits : ∀ k, msg.payload.target instanceOffset = some k → KeyFits k)
    (now : Int) : BlobsNameKeys (messageHandlerProcess g msg instanceOffset now).1.redis := by
  unfold messageHandlerProcess
  split <;> rename_i m hpay <;> simp only [hpay, ParsedPayload.target] at hfits
  · have hk := hfits _ rfl
    unfold messageHandlerProcessObjectDefinition
    dsimp only
    split_ifs <;> exact redisCacheStoreObject_blobsNameKeys h hk
  · have hk := hfits _ rfl
    unfold messageHandlerProcessValueUpdate
    dsimp only
    split_ifs <;> first | exact h | exact redisCacheUpdateValue_blobsNameKeys h hk _ _ _ _ _
  · exact redisCacheDeleteObject_blobsNameKeys h _ _
  · exact h

/-- A delivery keeps every readable record naming its key. -/
theorem onEventReceived_blobsNameKeys (h : BlobsNameKeys g.redis) (e : ReceivedEvent)
    (now : Int) : BlobsNameKeys (onEventReceived g e now).1.redis := by
  unfold onEventReceived
  split
  · exact h
  · split
    · exact h
    · rename_i msg hparse
      have hp := @messageHandlerProcess_blobsNameKeys _ h msg
        (instanceOffsetOf g.subscriptions e.subscriptionId)
        (fun _ hk => messageHandlerParse_target_fits hparse _ hk) now
      dsimp only
      split_ifs
      · exact hp.of_objects (redisCacheStoreStreamPosition_objects _ _ _)
      · exact hp

theorem onEvents_blobsNameKeys (h : BlobsNameKeys g.redis) (es : List (ReceivedEvent × Int)) :
    BlobsNameKeys (onEvents g es).1.redis := by
  induction es generalizing g with
  | nil => exact h
  | cons en es ih => exact ih (onEventReceived_blobsNameKeys h en.1 en.2)

variable {k : ObjectKey}

theorem messageHandlerProcess_objects_of_target_ne (h : BlobsNameKeys g.redis)
    {msg : ParsedMessage} {instanceOffset : Nat} (hne : msg.payload.target instanceOffset ≠ some k)
    (now : Int) :
    (messageHandlerProcess g msg instanceOffset now).1.redis.objects k = g.redis.objects k := by
  have hne' : ∀ {t : Int} {i : Nat}, some (t, i) ≠ some k → (t, i) ≠ k :=
    fun h' heq => h' (congrArg some heq)
  unfold messageHandlerProcess
  split <;> rename_i m hpay <;> simp only [hpay, ParsedPayload.target] at hne
  · unfold messageHandlerProcessObjectDefinition
    dsimp only
    split_ifs <;> exact redisCacheStoreObject_objects_of_ne (hne' hne)
  · unfold messageHandlerProcessValueUpdate
    dsimp only
    split_ifs <;> first | rfl | exact redisCacheUpdateValue_objects_of_ne h (hne' hne) _ _ _ _ _
  · exact redisCacheDeleteObject_objects_of_ne (hne' hne)
  · rfl

theorem onEventReceived_objects_of_target_ne (h : BlobsNameKeys g.redis) {e : ReceivedEvent}
    (hne : e.target g.subscriptions ≠ some k) (now : Int) :
    (onEventReceived g e now).1.redis.objects k = g.redis.objects k := by
  unfold onEventReceived
  split
  · rfl
  · rename_i doc hdata
    split
    · rfl
    · rename_i msg hparse
      have hmsg : e.message = some msg := ReceivedEvent.message_eq_some.mpr ⟨doc, hdata, hparse⟩
      have ht : msg.payload.target (instanceOffsetOf g.subscriptions e.subscriptionId) ≠ some k := by
        simpa [ReceivedEvent.target, hmsg] using hne
      have hp := messageHandlerProcess_objects_of_target_ne h ht now
      dsimp only
      split_ifs
      · rw [redisCacheStoreStreamPosition_objects, hp]
      · exact hp

theorem onEvents_objects_of_target_ne (h : BlobsNameKeys g.redis) {es : List (ReceivedEvent × Int)}
    (hne : ∀ p ∈ es, p.1.target g.subscriptions ≠ some k) :
    (onEvents g es).1.redis.objects k = g.redis.objects k := by
  induction es generalizing g with
  | nil => rfl
  | cons en es ih =>
    have hfirst := onEventReceived_objects_of_target_ne h (hne en (List.mem_cons_self _ _)) en.2
    have hsubs := onEventReceived_subscriptions g en.1 en.2
    exact (ih (onEventReceived_blobsNameKeys h en.1 en.2)
      fun p hp => hsubs ▸ hne p (List.mem_cons_of_mem _ hp)).trans hfirst

end Process

end BacnetEventServer
