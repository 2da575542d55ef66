import BacnetEventServer.BlobNames
import BacnetEventServer.ServerInvariant

namespace BacnetEventServer

section Lists

variable {α : Type} {p q : α → Bool}

theorem find?_updateFirst_self (f : α → α) (hf : ∀ a, p (f a) = p a) (l : List α) :
    (updateFirst p f l).find? p = (l.find? p).map f := by
  induction l with
  | nil => rfl
  | cons a as ih => by_cases h : p a <;> simp [updateFirst, List.find?_cons, h, hf, ih]

theorem find?_updateFirst_of_disjoint (f : α → α) (hf : ∀ a, p (f a) = p a)
    (hqp : ∀ a, q a → ¬ p a) (l : List α) : (updateFirst q f l).find? p = l.find? p := by
  induction l with
  | nil => rfl
  | cons a as ih =>
    by_cases hq : q a
    · simp [updateFirst, List.find?_cons, hq, hf, hqp a hq]
    · by_cases hp : p a <;> simp [updateFirst, List.find?_cons, hq, hp, ih]

theorem find?_eraseP_of_disjoint (hqp : ∀ a, q a → ¬ p a) (l : List α) :
    (l.eraseP q).find? p = l.find? p := by
  induction l with
  | nil => rfl
  | cons a as ih =>
    by_cases hq : q a
    · simp [List.eraseP_cons, List.find?_cons, hq, hqp a hq]
    · by_cases hp : p a <;> simp [List.eraseP_cons, List.find?_cons, hq, hp, ih]

end Lists

theorem isObject_eq_true_iff {type : Int} {inst : Nat} {o : BacnetObjectInternal} :
    isObject type inst o = true ↔ objectKey o = (type, inst) := by
  simp [isObject, objectKey]

theorem isObject_disjoint {type type' : Int} {inst inst' : Nat}
    (h : (type', inst') ≠ (type, inst)) (o : BacnetObjectInternal) :
    isObject type' inst' o = true → ¬ isObject type inst o = true := by
  rw [isObject_eq_true_iff, isObject_eq_true_iff]
  intro h' h''
  exact h (h'.symm.trans h'')

section Frames

variable {s : BacnetServer} {type type' : Int} {inst inst' : Nat}

theorem findObject_bacnetCovSendNotifications_of_ne (h : (type', inst') ≠ (type, inst)) :
    findObject (bacnetCovSendNotifications s type' inst').1 type inst = findObject s type inst := by
  rcases bacnetCovSendNotifications_cases with heq | ⟨_, _, heq⟩ <;> rw [heq]
  exact find?_updateFirst_of_disjoint markCovValue (fun _ => by rfl) (isObject_disjoint h) _

theorem findObject_bacnetServerCreateObject_of_ne (h : (type', inst') ≠ (type, inst))
    {name : CStr} {description : Option CStr} {initialValue : Option BacnetValue} {units : Nat}
    {covIncrement : CFloat} {now : Int} :
    findObject (bacnetServerCreateObject s type' inst' name description initialValue units
      covIncrement now).1 type inst = findObject s type inst := by
  rcases bacnetServerCreateObject_cases with heq | ⟨_, _, obj, hkey, heq⟩ <;> rw [heq]
  have hne : isObject type inst obj = false :=
    Bool.eq_false_iff.mpr fun hk => h (hkey.symm.trans (isObject_eq_true_iff.mp hk))
  simp [findObject, List.find?_cons, hne]

theorem findObject_bacnetServerDeleteObject_of_ne (h : (type', inst') ≠ (type, inst)) :
    findObject (bacnetServerDeleteObject s type' inst').1 type inst = findObject s type inst := by
  rcases bacnetServerDeleteObject_cases with heq | ⟨_, _, heq⟩ <;> rw [heq]
  exact find?_eraseP_of_disjoint (isObject_disjoint h) _

theorem findObject_bacnetServerUpdateValue_of_ne (h : (type', inst') ≠ (type, inst))
    {value : BacnetValue} {checkCov : Bool} {now : Int} :
    findObject (bacnetServerUpdateValue s type' inst' value checkCov now).1 type inst =
      findObject s type inst := by
  have h1 : findObject { s with objects :=
      (updateFirst (isObject type' inst') (writePresentValue value now) s.objects) } type inst =
      findObject s type inst :=
    find?_updateFirst_of_disjoint (writePresentValue value now) (fun _ => by rfl)
      (isObject_disjoint h) _
  rcases bacnetServerUpdateValue_cases with heq | heq | heq <;> rw [heq]
  · exact h1
  · exact (findObject_bacnetCovSendNotifications_of_ne h).trans h1

theorem findObject_of_updateFirst {s' : BacnetServer} {obj : BacnetObjectInternal}
    (hfound : findObject s type inst = some obj) (f : BacnetObjectInternal → BacnetObjectInternal)
    (hf : ∀ o, isObject type inst (f o) = isObject type inst o)
    (hobjects : s'.objects = updateFirst (isObject type inst) f s.objects) :
    findObject s' type inst = some (f obj) := by
  rw [findObject, hobjects, find?_updateFirst_self f hf, ← findObject, hfound]
  rfl

/-- A successful update leaves the object with the new present value. -/
theorem findObject_bacnetServerUpdateValue_self {type : Int} {inst : Nat} {value : BacnetValue}
    {checkCov : Bool} {now : Int}
    (hok : (bacnetServerUpdateValue s type inst value checkCov now).2) :
    ∃ obj, findObject (bacnetServerUpdateValue s type inst value checkCov now).1 type inst =
      some obj ∧ obj.presentValue = value := by
  unfold bacnetServerUpdateValue at hok ⊢
  split at hok
  · cases hok
  rename_i obj hfound
  have h1 : findObject { s with objects :=
      (updateFirst (isObject type inst) (writePresentValue value now) s.objects) } type inst =
      some (writePresentValue value now obj) :=
    findObject_of_updateFirst hfound _ (fun _ => rfl) rfl
  dsimp only
  split
  · rcases bacnetCovSendNotifications_cases with heq | ⟨_, _, heq⟩ <;> rw [heq]
    · exact ⟨_, h1, rfl⟩
    · exact ⟨_, findObject_of_updateFirst h1 markCovValue (fun _ => rfl) rfl, rfl⟩
  · exact ⟨_, h1, rfl⟩

theorem findObject_bacnetServerCreateObject_self
    {name : CStr} {description : Option CStr} {initialValue : Option BacnetValue} {units : Nat}
    {covIncrement : CFloat} {now : Int}
    (h : (bacnetServerCreateObject s type inst name description initialValue units covIncrement
      now).2 = true) :
    (findObject (bacnetServerCreateObject s type inst name description initialValue units
      covIncrement now).1 type inst).isSome := by
  unfold bacnetServerCreateObject at h ⊢
  split_ifs at h ⊢
  simp [findObject, isObject]

theorem bacnetServerCreateObject_of_none (h : findObject s type inst = none)
    (hroom : s.objectCount < s.config.maxObjects)
    {name : CStr} {description : Option CStr} {initialValue : Option BacnetValue} {units : Nat}
    {covIncrement : CFloat} {now : Int} :
    (bacnetServerCreateObject s type inst name description initialValue units covIncrement
      now).2 = true := by
  simp [bacnetServerCreateObject, h, Nat.not_le.mpr hroom]

end Frames

namespace ServerApi

variable {s : BacnetServer} {o : CachedObject} {now : Int}

theorem findObject_bacnetServerCreateObject_of_ne {type : Int} {inst : Nat}
    (h : (o.objectType, o.objectInstance) ≠ (type, inst)) :
    findObject (bacnetServerCreateObject s o now).1 type inst = findObject s type inst := by
  unfold bacnetServerCreateObject
  split_ifs
  · exact find?_updateFirst_of_disjoint (p := isObject type inst) (refreshObject o now)
      (fun _ => rfl) (isObject_disjoint h) s.objects
  · exact BacnetEventServer.findObject_bacnetServerCreateObject_of_ne h

theorem findObject_bacnetServerCreateObject_self (h : (bacnetServerCreateObject s o now).2 = 0) :
    (findObject (bacnetServerCreateObject s o now).1 o.objectType o.objectInstance).isSome := by
  unfold bacnetServerCreateObject at h ⊢
  split_ifs at h ⊢ with hfound
  · obtain ⟨obj, hobj⟩ := Option.isSome_iff_exists.mp hfound
    rw [findObject_of_updateFirst hobj (refreshObject o now) (fun _ => rfl) rfl]
    rfl
  · dsimp only at h ⊢
    split_ifs at h with hcreated
    exact BacnetEventServer.findObject_bacnetServerCreateObject_self hcreated

/-- The create-or-update succeeds on a held object, or on another while there is room. -/
theorem bacnetServerCreateObject_eq_zero
    (h : (findObject s o.objectType o.objectInstance).isSome ∨ s.objectCount < s.config.maxObjects) :
    (bacnetServerCreateObject s o now).2 = 0 := by
  unfold bacnetServerCreateObject
  split_ifs with hfound
  · rfl
  · dsimp only
    rw [if_pos (BacnetEventServer.bacnetServerCreateObject_of_none
      (Option.not_isSome_iff_eq_none.mp hfound) (h.resolve_left hfound))]

theorem bacnetServerUpdateValue_eq_zero {type : Int} {inst : Nat} {valueType : Int}
    {value : PresentValue} (h : (bacnetServerUpdateValue s type inst valueType value now).2 = 0) :
    (BacnetEventServer.bacnetServerUpdateValue s type inst (taggedValue valueType value) true
      now).2 := by
  simp only [bacnetServerUpdateValue] at h
  split_ifs at h with hok
  exact hok

end ServerApi

section LiveCache

variable {r : Redis} {t : Int} {i : Nat} {j : Json}

/-- With no failure scripted, a store succeeds and leaves the context live. -/
theorem redisCacheStoreObject_of_replies_nil (o : CachedObject) (hc : r.connected = true)
    (hr : r.replies = []) :
    (redisCacheStoreObject r o).2 = 0 ∧ (redisCacheStoreObject r o).1.connected = true ∧
      (redisCacheStoreObject r o).1.replies = [] := by
  obtain ⟨hok, hlive, hnone⟩ :=
    r.exec_of_replies_nil (.set (o.objectType, o.objectInstance) (renderObject o)) hc hr
  obtain ⟨-, hlive', hnone'⟩ :=
    Redis.exec_of_replies_nil _ (.sadd (o.objectType, o.objectInstance)) hlive hnone
  simp [redisCacheStoreObject, redisCacheIsConnected, hc, hok, hlive', hnone']

theorem redisCacheLoadObject_of_replies_nil (hc : r.connected = true) (hr : r.replies = [])
    (hj : r.objects (t, i) = some (some j)) :
    (redisCacheLoadObject r t i).2 = some (objectOfJson t i j) ∧
      (redisCacheLoadObject r t i).1.connected = true ∧
      (redisCacheLoadObject r t i).1.replies = [] := by
  obtain ⟨hok, hlive, hnone⟩ := r.exec_of_replies_nil (.get (t, i)) hc hr
  simp [redisCacheLoadObject, redisCacheIsConnected, hc, hok, hlive, hnone, hj]

/-- With no failure scripted, an update of a readable blob succeeds. -/
theorem redisCacheUpdateValue_of_replies_nil (hc : r.connected = true) (hr : r.replies = [])
    (hj : r.objects (t, i) = some (some j)) (valueType : Int) (value : PresentValue)
    (flags : Option StatusFlags) (sourceTimestamp now : Int) :
    (redisCacheUpdateValue r t i valueType value flags sourceTimestamp now).2 = 0 ∧
      (redisCacheUpdateValue r t i valueType value flags sourceTimestamp now).1.connected = true ∧
      (redisCacheUpdateValue r t i valueType value flags sourceTimestamp now).1.replies = [] := by
  obtain ⟨hload, hlive, hnone⟩ := redisCacheLoadObject_of_replies_nil hc hr hj
  simp only [redisCacheUpdateValue, redisCacheIsConnected, hc, Bool.not_true, hload]
  exact redisCacheStoreObject_of_replies_nil _ hlive hnone

theorem redisCacheStoreStreamPosition_of_replies_nil (hc : r.connected = true)
    (hr : r.replies = []) (subscriptionId : CStr) (position : Nat) :
    (redisCacheStoreStreamPosition r subscriptionId position).1.connected = true ∧
      (redisCacheStoreStreamPosition r subscriptionId position).1.replies = [] := by
  obtain ⟨-, hlive, hnone⟩ := r.exec_of_replies_nil (.hset subscriptionId position) hc hr
  simp [redisCacheStoreStreamPosition, redisCacheIsConnected, hc, hlive, hnone]

theorem bacnetServerUpdateValue_of_isSome {s : BacnetServer} {type : Int} {inst : Nat}
    (h : (findObject s type inst).isSome) {value : BacnetValue} {checkCov : Bool} {now : Int} :
    (bacnetServerUpdateValue s type inst value checkCov now).2 = true := by
  obtain ⟨obj, hobj⟩ := Option.isSome_iff_exists.mp h
  unfold bacnetServerUpdateValue
  rw [hobj]
  dsimp only
  split <;> rfl

end LiveCache

section Process

variable {g : Gateway} {type : Int} {inst : Nat} {instanceOffset : Nat} {now : Int}

theorem messageHandlerProcess_findObject_of_target_ne {msg : ParsedMessage}
    (h : msg.payload.target instanceOffset ≠ some (type, inst)) :
    findObject (messageHandlerProcess g msg instanceOffset now).1.server type inst =
      findObject g.server type inst := by
  have hne : ∀ {t : Int} {i : Nat}, some (t, i) ≠ some (type, inst) → (t, i) ≠ (type, inst) :=
    fun h' heq => h' (congrArg some heq)
  unfold messageHandlerProcess
  split <;> rename_i hpay <;> simp only [hpay, ParsedPayload.target] at h
  · unfold messageHandlerProcessObjectDefinition
    dsimp only
    split_ifs <;> first | rfl | exact ServerApi.findObject_bacnetServerCreateObject_of_ne (hne h)
  · unfold messageHandlerProcessValueUpdate
    dsimp only
    split_ifs <;> first | rfl | exact findObject_bacnetServerUpdateValue_of_ne (hne h)
  · exact findObject_bacnetServerDeleteObject_of_ne (hne h)
  · rfl

theorem messageHandlerProcessValueUpdate_findObject {m : ValueUpdateMsg}
    (h : (messageHandlerProcessValueUpdate g m instanceOffset now).2 = 0) :
    ∃ obj, findObject (messageHandlerProcessValueUpdate g m instanceOffset now).1.server
      m.objectType ((m.objectInstance + instanceOffset) % 2 ^ 32) = some obj ∧
      obj.presentValue = ServerApi.taggedValue m.valueType m.presentValue := by
  unfold messageHandlerProcessValueUpdate at h ⊢
  dsimp only at h ⊢
  generalize (if m.hasStatusFlags = true then some m.statusFlags else none) = flags at h ⊢
  split_ifs at h ⊢ with hknown hcached hupdated
  · cases h
  · cases h
  · cases h
  · exact findObject_bacnetServerUpdateValue_self
      (ServerApi.bacnetServerUpdateValue_eq_zero (not_not.mp hupdated))

/-- An applied update has stored back the record it loaded, with the update written. -/
theorem messageHandlerProcessValueUpdate_objects {m : ValueUpdateMsg} (hnames : BlobsNameKeys g.redis)
    (h : (messageHandlerProcessValueUpdate g m instanceOffset now).2 = 0) :
    ∃ x, (redisCacheLoadObject g.redis m.objectType
        ((m.objectInstance + instanceOffset) % 2 ^ 32)).2 = some x ∧
      (messageHandlerProcessValueUpdate g m instanceOffset now).1.redis.objects
          (m.objectType, (m.objectInstance + instanceOffset) % 2 ^ 32) =
        some (renderObject (updatedRecord x m.valueType m.presentValue
          (if m.hasStatusFlags then some m.statusFlags else none) now now)) := by
  unfold messageHandlerProcessValueUpdate at h ⊢
  dsimp only at h ⊢
  generalize (if m.hasStatusFlags = true then some m.statusFlags else none) = flags at h ⊢
  split_ifs at h ⊢ with hknown hcached
  all_goals first
    | exact redisCacheUpdateValue_objects_of_eq_zero hnames (not_not.mp hcached)
    | cases h

theorem messageHandlerProcessObjectDefinition_findObject {m : ObjectDefinitionMsg}
    (h : (messageHandlerProcessObjectDefinition g m instanceOffset now).2 = 0) :
    (findObject (messageHandlerProcessObjectDefinition g m instanceOffset now).1.server
      m.objectType ((m.objectInstance + instanceOffset) % 2 ^ 32)).isSome := by
  unfold messageHandlerProcessObjectDefinition at h ⊢
  dsimp only at h ⊢
  split_ifs at h ⊢ with hstored hcreated
  · cases h
  · cases h
  · exact ServerApi.findObject_bacnetServerCreateObject_self (not_not.mp hcreated)

/-- A definition is applied when its record is stored and the object is held or fits. -/
theorem messageHandlerProcessObjectDefinition_accepted {m : ObjectDefinitionMsg}
    (hstored : (redisCacheStoreObject g.redis (definitionRecord m instanceOffset now)).2 = 0)
    (hroom : (findObject g.server m.objectType ((m.objectInstance + instanceOffset) % 2 ^ 32)).isSome ∨
      g.server.objectCount < g.server.config.maxObjects) :
    (messageHandlerProcessObjectDefinition g m instanceOffset now).2 = 0 := by
  unfold messageHandlerProcessObjectDefinition
  simp [hstored, ServerApi.bacnetServerCreateObject_eq_zero
    (o := definitionRecord m instanceOffset now) hroom]

theorem messageHandlerProcessObjectDefinition_redis {m : ObjectDefinitionMsg} :
    (messageHandlerProcessObjectDefinition g m instanceOffset now).1.redis =
      (redisCacheStoreObject g.redis (definitionRecord m instanceOffset now)).1 := by
  unfold messageHandlerProcessObjectDefinition
  dsimp only
  split_ifs <;> rfl

/-- With a live cache, a definition is stored under its key and applied. -/
theorem messageHandlerProcessObjectDefinition_live {m : ObjectDefinitionMsg} {k : ObjectKey}
    (hkey : (m.objectType, (m.objectInstance + instanceOffset) % 2 ^ 32) = k)
    (hc : g.redis.connected = true) (hr : g.redis.replies = [])
    (hroom : (findObject g.server k.1 k.2).isSome ∨
      g.server.objectCount < g.server.config.maxObjects) :
    (messageHandlerProcessObjectDefinition g m instanceOffset now).2 = 0 ∧
      (messageHandlerProcessObjectDefinition g m instanceOffset now).1.redis.connected = true ∧
      (messageHandlerProcessObjectDefinition g m instanceOffset now).1.redis.replies = [] ∧
      (messageHandlerProcessObjectDefinition g m instanceOffset now).1.redis.objects k =
        some (renderObject (definitionRecord m instanceOffset now)) ∧
      (findObject (messageHandlerProcessObjectDefinition g m instanceOffset now).1.server
        k.1 k.2).isSome := by
  subst hkey
  obtain ⟨hstored, hlive, hnone⟩ :=
    redisCacheStoreObject_of_replies_nil (definitionRecord m instanceOffset now) hc hr
  have h0 := messageHandlerProcessObjectDefinition_accepted hstored hroom
  rw [messageHandlerProcessObjectDefinition_redis]
  exact ⟨h0, hlive, hnone, redisCacheStoreObject_objects hstored,
    messageHandlerProcessObjectDefinition_findObject h0⟩

/-- With no Redis failure, an update of a held object is accepted, whatever its kind. -/
theorem messageHandlerProcessValueUpdate_accepted {m : ValueUpdateMsg} {j : Json}
    (hknown : knownValueType m.valueType = true)
    (hc : g.redis.connected = true) (hr : g.redis.replies = [])
    (hj : g.redis.objects (m.objectType, (m.objectInstance + instanceOffset) % 2 ^ 32) =
      some (some j))
    (hobj :
      (findObject g.server m.objectType ((m.objectInstance + instanceOffset) % 2 ^ 32)).isSome) :
    (messageHandlerProcessValueUpdate g m instanceOffset now).2 = 0 := by
  have hupdated : (ServerApi.bacnetServerUpdateValue g.server m.objectType
      ((m.objectInstance + instanceOffset) % 2 ^ 32) m.valueType m.presentValue now).2 = 0 := by
    simp only [ServerApi.bacnetServerUpdateValue, bacnetServerUpdateValue_of_isSome hobj, if_true]
  unfold messageHandlerProcessValueUpdate
  rw [if_neg (by simp [hknown])]
  dsimp only
  rw [if_neg (not_not.mpr (redisCacheUpdateValue_of_replies_nil hc hr hj _ _ _ _ _).1)]
  dsimp only
  rw [hupdated]
  rfl

theorem messageHandlerProcessValueUpdate_redis {m : ValueUpdateMsg}
    (hknown : knownValueType m.valueType = true) :
    (messageHandlerProcessValueUpdate g m instanceOffset now).1.redis =
      (redisCacheUpdateValue g.redis m.objectType ((m.objectInstance + instanceOffset) % 2 ^ 32)
        m.valueType m.presentValue (if m.hasStatusFlags then some m.statusFlags else none) now
        now).1 := by
  unfold messageHandlerProcessValueUpdate
  rw [if_neg (by simp [hknown])]
  dsimp only
  split_ifs <;> rfl

theorem messageHandlerProcessObjectDefinition_blobsNameKeys {m : ObjectDefinitionMsg}
    (h : BlobsNameKeys g.redis)
    (hfits : KeyFits (m.objectType, (m.objectInstance + instanceOffset) % 2 ^ 32)) :
    BlobsNameKeys (messageHandlerProcessObjectDefinition g m instanceOffset now).1.redis :=
  @messageHandlerProcess_blobsNameKeys g h ⟨[], 0, .objectDefinition m⟩ instanceOffset
    (fun _ hk => by cases hk; exact hfits) now

theorem messageHandlerProcessValueUpdate_blobsNameKeys {m : ValueUpdateMsg}
    (h : BlobsNameKeys g.redis)
    (hfits : KeyFits (m.objectType, (m.objectInstance + instanceOffset) % 2 ^ 32)) :
    BlobsNameKeys (messageHandlerProcessValueUpdate g m instanceOffset now).1.redis :=
  @messageHandlerProcess_blobsNameKeys g h ⟨[], 0, .valueUpdate m⟩ instanceOffset
    (fun _ hk => by cases hk; exact hfits) now

/-- With a live cache, an update is written into the record read from the blob. -/
theorem messageHandlerProcessValueUpdate_of_blob {m : ValueUpdateMsg} {k : ObjectKey} {j : Json}
    (hnames : BlobsNameKeys g.redis)
    (hkey : (m.objectType, (m.objectInstance + instanceOffset) % 2 ^ 32) = k)
    (hknown : knownValueType m.valueType = true) (hc : g.redis.connected = true)
    (hr : g.redis.replies = []) (hj : g.redis.objects k = some (some j))
    (hobj : (findObject g.server k.1 k.2).isSome) :
    (messageHandlerProcessValueUpdate g m instanceOffset now).2 = 0 ∧
      (messageHandlerProcessValueUpdate g m instanceOffset now).1.redis.connected = true ∧
      (messageHandlerProcessValueUpdate g m instanceOffset now).1.redis.replies = [] ∧
      (messageHandlerProcessValueUpdate g m instanceOffset now).1.redis.objects k =
        some (renderObject (updatedRecord (objectOfJson k.1 k.2 j) m.valueType m.presentValue
          (if m.hasStatusFlags then some m.statusFlags else none) now now)) ∧
      (findObject (messageHandlerProcessValueUpdate g m instanceOffset now).1.server
        k.1 k.2).isSome := by
  subst hkey
  have h0 : (messageHandlerProcessValueUpdate g m instanceOffset now).2 = 0 :=
    messageHandlerProcessValueUpdate_accepted hknown hc hr hj hobj
  obtain ⟨x, hload, hblob⟩ := messageHandlerProcessValueUpdate_objects hnames h0
  rw [(redisCacheLoadObject_of_replies_nil hc hr hj).1] at hload
  cases hload
  obtain ⟨obj, hfind, -⟩ := messageHandlerProcessValueUpdate_findObject h0
  have hlive := redisCacheUpdateValue_of_replies_nil hc hr hj m.valueType m.presentValue
    (if m.hasStatusFlags then some m.statusFlags else none) now now
  rw [messageHandlerProcessValueUpdate_redis hknown] at hblob ⊢
  exact ⟨h0, hlive.2.1, hlive.2.2, hblob, by rw [hfind]; rfl⟩

end Process

section Deliveries

variable {g : Gateway} {e : ReceivedEvent} {now : Int} {type : Int} {inst : Nat}

theorem onEventReceived_findObject_of_target_ne
    (h : e.target g.subscriptions ≠ some (type, inst)) :
    findObject (onEventReceived g e now).1.server type inst = findObject g.server type inst := by
  unfold onEventReceived
  split
  · rfl
  · rename_i doc hdata
    split
    · rfl
    · rename_i msg hparse
      have hmsg : e.message = some msg := ReceivedEvent.message_eq_some.mpr ⟨doc, hdata, hparse⟩
      have ht : msg.payload.target (instanceOffsetOf g.subscriptions e.subscriptionId) ≠
          some (type, inst) := by
        simpa [ReceivedEvent.target, hmsg] using h
      dsimp only
      split_ifs <;> exact messageHandlerProcess_findObject_of_target_ne ht

/-- A decoded event is acknowledged exactly when its processing returns 0. -/
theorem onEventReceived_of_message {msg : ParsedMessage} (hmsg : e.message = some msg) :
    onEventReceived g e now =
      if (messageHandlerProcess g msg (instanceOffsetOf g.subscriptions e.subscriptionId) now).2 = 0
      then ({ (messageHandlerProcess g msg (instanceOffsetOf g.subscriptions e.subscriptionId)
                now).1 with
              redis := (redisCacheStoreStreamPosition (messageHandlerProcess g msg
                (instanceOffsetOf g.subscriptions e.subscriptionId) now).1.redis e.subscriptionId
                e.streamRevision).1 }, true)
      else ((messageHandlerProcess g msg (instanceOffsetOf g.subscriptions e.subscriptionId)
        now).1, false) := by
  obtain ⟨doc, hdata, hparse⟩ := ReceivedEvent.message_eq_some.mp hmsg
  unfold onEventReceived
  simp only [hdata, hparse]

/-- An acknowledged update leaves its value in the registry and the stored record. -/
theorem onEventReceived_valueUpdate (hnames : BlobsNameKeys g.redis) {msg : ParsedMessage}
    {m : ValueUpdateMsg} (hmsg : e.message = some msg) (hpay : msg.payload = .valueUpdate m)
    (hack : (onEventReceived g e now).2 = true) :
    (∃ obj, findObject (onEventReceived g e now).1.server m.objectType
      ((m.objectInstance + instanceOffsetOf g.subscriptions e.subscriptionId) % 2 ^ 32) =
        some obj ∧ obj.presentValue = ServerApi.taggedValue m.valueType m.presentValue) ∧
    ∃ x, (redisCacheLoadObject g.redis m.objectType
        ((m.objectInstance + instanceOffsetOf g.subscriptions e.subscriptionId) % 2 ^ 32)).2 =
          some x ∧
      (onEventReceived g e now).1.redis.objects (m.objectType,
          (m.objectInstance + instanceOffsetOf g.subscriptions e.subscriptionId) % 2 ^ 32) =
        some (renderObject (updatedRecord x m.valueType m.presentValue
          (if m.hasStatusFlags then some m.statusFlags else none) now now)) := by
  rw [onEventReceived_of_message hmsg] at hack ⊢
  have hprocess : messageHandlerProcess g msg (instanceOffsetOf g.subscriptions e.subscriptionId)
      now = messageHandlerProcessValueUpdate g m (instanceOffsetOf g.subscriptions e.subscriptionId)
        now := by
    rw [messageHandlerProcess, hpay]
  rw [hprocess] at hack ⊢
  have h0 : (messageHandlerProcessValueUpdate g m
      (instanceOffsetOf g.subscriptions e.subscriptionId) now).2 = 0 := by
    by_contra h
    rw [if_neg h] at hack
    exact Bool.false_ne_true hack
  rw [if_pos h0]
  refine ⟨messageHandlerProcessValueUpdate_findObject h0, ?_⟩
  rw [redisCacheStoreStreamPosition_objects]
  exact messageHandlerProcessValueUpdate_objects hnames h0

theorem onEvents_nil_fst : (onEvents g []).1 = g := rfl

theorem onEvents_nil_snd : (onEvents g []).2 = [] := rfl

theorem onEvents_cons_fst (es : List (ReceivedEvent × Int)) :
    (onEvents g ((e, now) :: es)).1 = (onEvents (onEventReceived g e now).1 es).1 := rfl

theorem onEvents_cons_snd (es : List (ReceivedEvent × Int)) :
    (onEvents g ((e, now) :: es)).2 =
      (onEventReceived g e now).2 :: (onEvents (onEventReceived g e now).1 es).2 := rfl

theorem onEventReceived_of_eq_zero {msg : ParsedMessage} (hmsg : e.message = some msg)
    (h0 : (messageHandlerProcess g msg (instanceOffsetOf g.subscriptions e.subscriptionId)
      now).2 = 0) :
    onEventReceived g e now =
      ({ (messageHandlerProcess g msg (instanceOffsetOf g.subscriptions e.subscriptionId)
            now).1 with
          redis := (redisCacheStoreStreamPosition (messageHandlerProcess g msg
            (instanceOffsetOf g.subscriptions e.subscriptionId) now).1.redis e.subscriptionId
            e.streamRevision).1 }, true) := by
  rw [onEventReceived_of_message hmsg, if_pos h0]

/-- With a live cache, a decoded definition is acknowledged and stored. -/
theorem onEventReceived_definition_live {msg : ParsedMessage} {m : ObjectDefinitionMsg}
    {k : ObjectKey} (hmsg : e.message = some msg) (hpay : msg.payload = .objectDefinition m)
    (hkey : (m.objectType,
      (m.objectInstance + instanceOffsetOf g.subscriptions e.subscriptionId) % 2 ^ 32) = k)
    (hc : g.redis.connected = true) (hr : g.redis.replies = [])
    (hroom : (findObject g.server k.1 k.2).isSome ∨
      g.server.objectCount < g.server.config.maxObjects) :
    (onEventReceived g e now).2 = true ∧ (onEventReceived g e now).1.redis.connected = true ∧
      (onEventReceived g e now).1.redis.replies = [] ∧
      (onEventReceived g e now).1.redis.objects k = some (renderObject
        (definitionRecord m (instanceOffsetOf g.subscriptions e.subscriptionId) now)) ∧
      (findObject (onEventReceived g e now).1.server k.1 k.2).isSome := by
  have hprocess : messageHandlerProcess g msg (instanceOffsetOf g.subscriptions e.subscriptionId)
      now = messageHandlerProcessObjectDefinition g m
        (instanceOffsetOf g.subscriptions e.subscriptionId) now := by
    rw [messageHandlerProcess, hpay]
  obtain ⟨h0, hc', hr', hblob, hobj⟩ :=
    @messageHandlerProcessObjectDefinition_live g _ now m k hkey hc hr hroom
  rw [← hprocess] at h0 hc' hr' hblob hobj
  have hlive := redisCacheStoreStreamPosition_of_replies_nil hc' hr' e.subscriptionId
    e.streamRevision
  rw [onEventReceived_of_eq_zero hmsg h0]
  exact ⟨rfl, hlive.1, hlive.2, by rw [redisCacheStoreStreamPosition_objects]; exact hblob, hobj⟩

/-- With a live cache, a decoded update of a readable blob is acknowledged. -/
theorem onEventReceived_valueUpdate_of_blob (hnames : BlobsNameKeys g.redis)
    {msg : ParsedMessage} {m : ValueUpdateMsg} {k : ObjectKey} {j : Json}
    (hmsg : e.message = some msg) (hpay : msg.payload = .valueUpdate m)
    (hkey : (m.objectType,
      (m.objectInstance + instanceOffsetOf g.subscriptions e.subscriptionId) % 2 ^ 32) = k)
    (hknown : knownValueType m.valueType = true) (hc : g.redis.connected = true)
    (hr : g.redis.replies = []) (hj : g.redis.objects k = some (some j))
    (hobj : (findObject g.server k.1 k.2).isSome) :
    (onEventReceived g e now).2 = true ∧ (onEventReceived g e now).1.redis.connected = true ∧
      (onEventReceived g e now).1.redis.replies = [] ∧
      (onEventReceived g e now).1.redis.objects k =
        some (renderObject (updatedRecord (objectOfJson k.1 k.2 j) m.valueType m.presentValue
          (if m.hasStatusFlags then some m.statusFlags else none) now now)) ∧
      (findObject (onEventReceived g e now).1.server k.1 k.2).isSome := by
  have hprocess : messageHandlerProcess g msg (instanceOffsetOf g.subscriptions e.subscriptionId)
      now = messageHandlerProcessValueUpdate g m
        (instanceOffsetOf g.subscriptions e.subscriptionId) now := by
    rw [messageHandlerProcess, hpay]
  obtain ⟨h0, hc', hr', hblob, hobj'⟩ :=
    @messageHandlerProcessValueUpdate_of_blob g _ now m k j hnames hkey hknown hc hr hj hobj
  rw [← hprocess] at h0 hc' hr' hblob hobj'
  have hlive := redisCacheStoreStreamPosition_of_replies_nil hc' hr' e.subscriptionId
    e.streamRevision
  rw [onEventReceived_of_eq_zero hmsg h0]
  exact ⟨rfl, hlive.1, hlive.2, by rw [redisCacheStoreStreamPosition_objects]; exact hblob,
    hobj'⟩

theorem onEvents_findObject_of_target_ne {es : List (ReceivedEvent × Int)}
    (h : ∀ p ∈ es, p.1.target g.subscriptions ≠ some (type, inst)) :
    findObject (onEvents g es).1.server type inst = findObject g.server type inst := by
  induction es generalizing g with
  | nil => rfl
  | cons en es ih =>
    have hfirst : findObject (onEventReceived g en.1 en.2).1.server type inst =
        findObject g.server type inst :=
      onEventReceived_findObject_of_target_ne (h en (List.mem_cons_self _ _))
    have hsubs := onEventReceived_subscriptions g en.1 en.2
    exact (ih fun p hp => hsubs ▸ h p (List.mem_cons_of_mem _ hp)).trans hfirst

end Deliveries

/-- The last acknowledged update in delivery order decides, whatever the stream positions: the
registry holds its value and the blob the loaded record with it, `stream_position` unchanged. -/
theorem registry_value_of_last_acknowledged_update (g : Gateway) (e : ReceivedEvent) (now : Int)
    (post : List (ReceivedEvent × Int)) (msg : ParsedMessage) (m : ValueUpdateMsg)
    (hnames : BlobsNameKeys g.redis) (hmsg : e.message = some msg)
    (hpay : msg.payload = .valueUpdate m) (hack : (onEventReceived g e now).2 = true)
    (hpost : ∀ p ∈ post, p.1.target g.subscriptions ≠ some (m.objectType,
      (m.objectInstance + instanceOffsetOf g.subscriptions e.subscriptionId) % 2 ^ 32)) :
    (∃ obj, findObject (onEvents g ((e, now) :: post)).1.server m.objectType
      ((m.objectInstance + instanceOffsetOf g.subscriptions e.subscriptionId) % 2 ^ 32) =
        some obj ∧ obj.presentValue = ServerApi.taggedValue m.valueType m.presentValue) ∧
    ∃ x, (redisCacheLoadObject g.redis m.objectType
        ((m.objectInstance + instanceOffsetOf g.subscriptions e.subscriptionId) % 2 ^ 32)).2 =
          some x ∧
      (onEvents g ((e, now) :: post)).1.redis.objects (m.objectType,
          (m.objectInstance + instanceOffsetOf g.subscriptions e.subscriptionId) % 2 ^ 32) =
        some (renderObject (updatedRecord x m.valueType m.presentValue
          (if m.hasStatusFlags then some m.statusFlags else none) now now)) := by
  obtain ⟨⟨obj, hfind, hvalue⟩, x, hload, hblob⟩ := onEventReceived_valueUpdate hnames hmsg hpay hack
  have hpost' : ∀ p ∈ post, p.1.target (onEventReceived g e now).1.subscriptions ≠
      some (m.objectType,
        (m.objectInstance + instanceOffsetOf g.subscriptions e.subscriptionId) % 2 ^ 32) := by
    rw [onEventReceived_subscriptions]
    exact hpost
  refine ⟨⟨obj, ?_, hvalue⟩, x, hload, ?_⟩
  · show findObject (onEvents (onEventReceived g e now).1 post).1.server _ _ = some obj
    rw [onEvents_findObject_of_target_ne hpost', hfind]
  · show (onEvents (onEventReceived g e now).1 post).1.redis.objects _ = _
    rw [onEvents_objects_of_target_ne (onEventReceived_blobsNameKeys hnames e now) hpost', hblob]

set_option maxRecDepth 20000 in
/-- An update is redelivered after its successor was applied: the registry and the cache end
with the value of the lower stream position, and the blob's `stream_position` is still 0. -/
theorem registry_value_from_lower_position :
    let g : Gateway := ⟨⟨true, fun _ => none, [], fun _ => none, none, [], []⟩,
      bacnetServerCreate ⟨1, [], [], [], 10, 10⟩, [⟨lit "sub", 0⟩]⟩
    let definition : ReceivedEvent := ⟨some (some (.object
      [(lit "messageType", .string (lit "ObjectDefinition")), (lit "sourceId", .string (lit "s1")),
        (lit "payload", .object [(lit "objectType", .string (lit "analog-input")),
          (lit "objectInstance", .number (CDouble.ofInt 1)),
          (lit "objectName", .string (lit "T")),
          (lit "presentValueType", .string (lit "real"))])])), lit "sub", 10⟩
    let update (value : Int) (revision : Nat) : ReceivedEvent := ⟨some (some (.object
      [(lit "messageType", .string (lit "ValueUpdate")), (lit "sourceId", .string (lit "s1")),
        (lit "payload", .object [(lit "objectType", .string (lit "analog-input")),
          (lit "objectInstance", .number (CDouble.ofInt 1)),
          (lit "presentValue", .number (CDouble.ofInt value))])])), lit "sub", revision⟩
    let before := onEvents g [(definition, 1), (update 21 12, 2)]
    let m : ValueUpdateMsg := ⟨0, 1, valueTypeReal, ⟨0x41B00000⟩, StatusFlags.cleared, false⟩
    let msg : ParsedMessage := ⟨lit "s1", 0, .valueUpdate m⟩
    before.2 = [true, true] ∧
    (redisCacheLoadObject before.1.redis 0 1).2.map (·.streamPosition) = some 0 ∧
    (BlobsNameKeys before.1.redis ∧ (update 22 11).message = some msg ∧
      msg.payload = .valueUpdate m ∧ (onEventReceived before.1 (update 22 11) 3).2 = true ∧
      ∀ p ∈ ([] : List (ReceivedEvent × Int)), p.1.target before.1.subscriptions ≠
        some (m.objectType,
          (m.objectInstance + instanceOffsetOf before.1.subscriptions (update 22 11).subscriptionId) %
            2 ^ 32)) ∧
    ((∃ obj, findObject (onEvents before.1 [(update 22 11, 3)]).1.server m.objectType
      ((m.objectInstance + instanceOffsetOf before.1.subscriptions (update 22 11).subscriptionId) %
        2 ^ 32) = some obj ∧ obj.presentValue = ServerApi.taggedValue m.valueType m.presentValue) ∧
    ∃ x, (redisCacheLoadObject before.1.redis m.objectType
        ((m.objectInstance + instanceOffsetOf before.1.subscriptions (update 22 11).subscriptionId) %
          2 ^ 32)).2 = some x ∧
      (onEvents before.1 [(update 22 11, 3)]).1.redis.objects (m.objectType,
          (m.objectInstance + instanceOffsetOf before.1.subscriptions (update 22 11).subscriptionId) %
            2 ^ 32) =
        some (renderObject (updatedRecord x m.valueType m.presentValue
          (if m.hasStatusFlags then some m.statusFlags else none) 3 3))) := by
  have hfresh : BlobsNameKeys ⟨true, fun _ => none, [], fun _ => none, none, [], []⟩ :=
    fun _ _ h => nomatch h
  intro g definition update before m msg
  have hdef : definition.message = some ⟨lit "s1", 0, .objectDefinition ⟨0, 1, lit "T", [],
      valueTypeReal, 95, [], CFloat.zero, CFloat.zero, CFloat.zero, List.replicate 16 [], 0,
      lit "Inactive", lit "Active", false, false, PresentValue.zero⟩⟩ := by
    decide
  have hupdate : (update 21 12).message = some ⟨lit "s1", 0,
      .valueUpdate ⟨0, 1, valueTypeReal, ⟨0x41A80000⟩, StatusFlags.cleared, false⟩⟩ := by
    decide
  have hmsg : (update 22 11).message = some msg := by decide
  obtain ⟨hack₁, hc₁, hr₁, hblob₁, hobj₁⟩ := @onEventReceived_definition_live g definition 1 _ _
    (0, 1) hdef rfl (by decide) rfl rfl (.inr (by decide))
  have hj₁ := hblob₁.trans (congrArg some (renderObject_eq_object (by decide)))
  obtain ⟨hack₂, hc₂, hr₂, hblob₂, hobj₂⟩ := @onEventReceived_valueUpdate_of_blob
    (onEventReceived g definition 1).1 (update 21 12) 2 (onEventReceived_blobsNameKeys hfresh _ _)
    _ _ (0, 1) _ hupdate rfl (by rw [onEventReceived_subscriptions]; decide) (by decide) hc₁ hr₁
    hj₁ hobj₁
  have hj₂ := hblob₂.trans (congrArg some (renderObject_eq_object (by decide)))
  have hbefore₁ : before.1 =
      (onEventReceived (onEventReceived g definition 1).1 (update 21 12) 2).1 := by
    show (onEvents g [(definition, 1), (update 21 12, 2)]).1 = _
    rw [onEvents_cons_fst, onEvents_cons_fst, onEvents_nil_fst]
  have hbefore₂ : before.2 = [(onEventReceived g definition 1).2,
      (onEventReceived (onEventReceived g definition 1).1 (update 21 12) 2).2] := by
    show (onEvents g [(definition, 1), (update 21 12, 2)]).2 = _
    rw [onEvents_cons_snd, onEvents_cons_snd, onEvents_nil_snd]
  rw [hbefore₁, hbefore₂]
  have hnames : BlobsNameKeys
      (onEventReceived (onEventReceived g definition 1).1 (update 21 12) 2).1.redis :=
    onEventReceived_blobsNameKeys (onEventReceived_blobsNameKeys hfresh _ _) _ _
  obtain ⟨hack, -⟩ := @onEventReceived_valueUpdate_of_blob
    (onEventReceived (onEventReceived g definition 1).1 (update 21 12) 2).1 (update 22 11) 3
    hnames _ _ (0, 1) _ hmsg rfl
    (by rw [onEventReceived_subscriptions, onEventReceived_subscriptions]; decide) (by decide)
    hc₂ hr₂ hj₂ hobj₂
  have hpost : ∀ p ∈ ([] : List (ReceivedEvent × Int)),
      p.1.target (onEventReceived (onEventReceived g definition 1).1 (update 21 12) 2).1.subscriptions ≠
        some (m.objectType, (m.objectInstance + instanceOffsetOf
          (onEventReceived (onEventReceived g definition 1).1 (update 21 12) 2).1.subscriptions
          (update 22 11).subscriptionId) % 2 ^ 32) :=
    fun _ hp => absurd hp (List.not_mem_nil _)
  refine ⟨by rw [hack₁, hack₂], ?_, ⟨hnames, hmsg, rfl, hack, hpost⟩,
    registry_value_of_last_acknowledged_update _ (update 22 11) 3 [] msg m hnames hmsg rfl
      hack hpost⟩
  rw [(redisCacheLoadObject_of_replies_nil hc₂ hr₂ hj₂).1]
  decide

set_option maxRecDepth 20000 in
/-- An object named with four backslashes and `n` is defined, and the same update is processed
twice by `message_handler_process_value_update`: both succeed, but each store prints the name unescaped and each load unescapes it, so
the cached name is two bytes after the first update and a newline after the second. -/
theorem redelivered_update_rewrites_cached_name :
    let g : Gateway := ⟨⟨true, fun _ => none, [], fun _ => none, none, [], []⟩,
      bacnetServerCreate ⟨1, [], [], [], 10, 10⟩, [⟨lit "sub", 0⟩]⟩
    let m : ObjectDefinitionMsg := ⟨0, 1, lit "\\\\\\\\n", [], valueTypeReal, 95, [],
      CFloat.zero, CFloat.zero, CFloat.zero, List.replicate 16 [], 0, lit "Inactive",
      lit "Active", false, false, PresentValue.zero⟩
    let u : ValueUpdateMsg := ⟨0, 1, valueTypeReal, ⟨0x41A80000⟩, StatusFlags.cleared, false⟩
    let defined := (messageHandlerProcessObjectDefinition g m 0 1).1
    let first := messageHandlerProcessValueUpdate defined u 0 2
    let second := messageHandlerProcessValueUpdate first.1 u 0 3
    first.2 = 0 ∧ second.2 = 0 ∧
      (redisCacheLoadObject first.1.redis 0 1).2.map (·.objectName) = some (lit "\\n") ∧
      (redisCacheLoadObject second.1.redis 0 1).2.map (·.objectName) = some (lit "\n") := by
  have hfresh : BlobsNameKeys ⟨true, fun _ => none, [], fun _ => none, none, [], []⟩ :=
    fun _ _ h => nomatch h
  intro g m u
  dsimp only
  have hfits : KeyFits (0, 1) := ⟨⟨by decide, by decide⟩, by decide⟩
  obtain ⟨-, hc₁, hr₁, hblob₁, hobj₁⟩ := @messageHandlerProcessObjectDefinition_live g 0 1 m
    (0, 1) rfl rfl rfl (.inr (by decide))
  have hj₁ := hblob₁.trans (congrArg some (renderObject_eq_object (by decide)))
  have hnames₁ := @messageHandlerProcessObjectDefinition_blobsNameKeys g 0 1 m hfresh hfits
  generalize (messageHandlerProcessObjectDefinition g m 0 1).1 = defined
    at hc₁ hr₁ hj₁ hobj₁ hnames₁ ⊢
  obtain ⟨h0₂, hc₂, hr₂, hblob₂, hobj₂⟩ := @messageHandlerProcessValueUpdate_of_blob defined 0 2
    u (0, 1) _ hnames₁ rfl (by decide) hc₁ hr₁ hj₁ hobj₁
  have hj₂ := hblob₂.trans (congrArg some (renderObject_eq_object (by decide)))
  have hnames₂ := @messageHandlerProcessValueUpdate_blobsNameKeys defined 0 2 u hnames₁ hfits
  generalize messageHandlerProcessValueUpdate defined u 0 2 = first
    at h0₂ hc₂ hr₂ hj₂ hobj₂ hnames₂ ⊢
  obtain ⟨h0₃, hc₃, hr₃, hblob₃, -⟩ := @messageHandlerProcessValueUpdate_of_blob first.1 0 3
    u (0, 1) _ hnames₂ rfl (by decide) hc₂ hr₂ hj₂ hobj₂
  have hj₃ := hblob₃.trans (congrArg some (renderObject_eq_object (by decide)))
  generalize messageHandlerProcessValueUpdate first.1 u 0 3 = second at h0₃ hc₃ hr₃ hj₃ ⊢
  refine ⟨h0₂, h0₃, ?_, ?_⟩
  · rw [(redisCacheLoadObject_of_replies_nil hc₂ hr₂ hj₂).1]
    decide
  · rw [(redisCacheLoadObject_of_replies_nil hc₃ hr₃ hj₃).1]
    decide

end BacnetEventServer
