import BacnetEventServer.GatewayRun
import BacnetEventServer.Registry
import BacnetEventServer.CacheKeys

namespace BacnetEventServer

/-- The blobs of a Redis that holds them under text keys, looked up through
`make_object_key`: what the cache model keeps by pair. -/
def objectsView (keyPrefix : CStr) (store : CStr → Option Blob) : ObjectKey → Option Blob :=
  fun k => store (makeObjectKey keyPrefix k.1 k.2)

/-- With a key prefix of at most 482 bytes, a `SET` or `DEL` of an object's text key writes the
model's pair alone: at every key that fits, the view after the write is the model's write. The
results below key Redis by pairs on this assumption. -/
theorem objectsView_update {keyPrefix : CStr} (hkeyLength : keyPrefix.length ≤ 482)
    (store : CStr → Option Blob) {k k' : ObjectKey} (hk : KeyFits k) (hk' : KeyFits k')
    (b : Option Blob) :
    objectsView keyPrefix (Function.update store (makeObjectKey keyPrefix k.1 k.2) b) k' =
      Function.update (objectsView keyPrefix store) k b k' := by
  by_cases h : k' = k
  · subst h
    simp [objectsView]
  · rw [Function.update_noteq h, objectsView, Function.update_noteq
      fun heq => h (eq_of_makeObjectKey_eq hkeyLength hk'.1 hk.1 hk'.2 hk.2 heq)]
    rfl

/-- The keys a command leaves alone: a `DEL` removes its record, an `SREM` its member. -/
def Command.Spares : Command → ObjectKey → Prop
  | .del k', k | .srem k', k => k' ≠ k
  | _, _ => True

namespace Redis

/-- `r'` still holds the record and the index member of every key `p` spares that `r` held,
and the replies still to come are a tail of those of `r`. -/
structure Keeps (r r' : Redis) (p : ObjectKey → Prop) : Prop where
  records : ∀ k, p k → (r.objects k).isSome → (r'.objects k).isSome
  members : ∀ k, p k → k ∈ r.index → k ∈ r'.index
  replies : r'.replies <:+ r.replies

/-- Redis executes every command it answers: no error reply and no command dropped, though
a reply may still be lost after the command ran. -/
def AppliesAll (r : Redis) : Prop := ∀ rep ∈ r.replies, rep.applied = true

variable {r r' r'' : Redis} {p : ObjectKey → Prop}

theorem Keeps.refl (r : Redis) (p : ObjectKey → Prop) : r.Keeps r p :=
  ⟨fun _ _ => id, fun _ _ => id, List.suffix_refl _⟩

theorem Keeps.trans (h : r.Keeps r' p) (h' : r'.Keeps r'' p) : r.Keeps r'' p :=
  ⟨fun k hk hr => h'.records k hk (h.records k hk hr),
    fun k hk hm => h'.members k hk (h.members k hk hm), h'.replies.trans h.replies⟩

theorem Keeps.mono {q : ObjectKey → Prop} (h : r.Keeps r' p) (hqp : ∀ k, q k → p k) :
    r.Keeps r' q :=
  ⟨fun k hk => h.records k (hqp k hk), fun k hk => h.members k (hqp k hk), h.replies⟩

theorem Keeps.appliesAll (h : r.Keeps r' p) (happ : r.AppliesAll) : r'.AppliesAll :=
  fun rep hrep => happ rep (h.replies.subset hrep)

theorem apply_records {k : ObjectKey} (h : (r.objects k).isSome) :
    ∀ c : Command, c.Spares k → ((r.apply c).objects k).isSome
  | .set k' _, _ => by by_cases hk : k = k' <;> simp [apply, Function.update_apply, hk, h]
  | .del k', hk => by simpa [apply, Function.update_apply, Ne.symm hk] using h
  | .get _, _ | .sadd _, _ | .srem _, _ | .smembers, _ | .hset _ _, _ | .hget _, _
  | .hmset _ _ _, _ => h

theorem mem_apply_sadd (r : Redis) (m : ObjectKey) : m ∈ (r.apply (.sadd m)).index := by
  dsimp only [apply]
  split_ifs with hm
  exacts [hm, List.mem_append_right _ (List.mem_singleton_self m)]

theorem apply_members {k : ObjectKey} (h : k ∈ r.index) :
    ∀ c : Command, c.Spares k → k ∈ (r.apply c).index
  | .sadd m, _ => by
    dsimp only [apply]
    split_ifs
    exacts [h, List.mem_append_left _ h]
  | .srem _, hk => (List.mem_erase_of_ne (Ne.symm hk)).mpr h
  | .set _ _, _ | .get _, _ | .del _, _ | .smembers, _ | .hset _ _, _ | .hget _, _
  | .hmset _ _ _, _ => h

theorem apply_keeps (r : Redis) (c : Command) : r.Keeps (r.apply c) c.Spares :=
  ⟨fun _ hk h => apply_records h c hk, fun _ hk h => apply_members h c hk,
    (apply_replies r c).symm ▸ List.suffix_refl _⟩

theorem exec_keeps (r : Redis) (c : Command) : r.Keeps (r.exec c).1 c.Spares := by
  unfold exec
  split
  · exact .refl _ _
  · have htail := List.tail_suffix r.replies
    have happly := apply_keeps
      { r with replies := r.replies.tail, log := r.log ++ [(c, r.replies.headD .ok)] } c
    dsimp only
    split <;> split
    all_goals first
      | exact ⟨happly.records, happly.members, by simpa using htail⟩
      | exact ⟨fun _ _ => id, fun _ _ => id, htail⟩

theorem exec_keeps_of_spares {c : Command} (hc : ∀ k, p k → c.Spares k) :
    r.Keeps (r.exec c).1 p :=
  (r.exec_keeps c).mono hc

theorem mem_exec_sadd (hc : r.connected = true) (happ : r.AppliesAll) (m : ObjectKey) :
    m ∈ (r.exec (.sadd m)).1.index := by
  have hhead : (r.replies.headD .ok).applied = true := by
    cases hreplies : r.replies with
    | nil => rfl
    | cons rep _ => exact happ rep (by simp [hreplies])
  unfold exec
  rw [if_neg (by simp [hc])]
  dsimp only
  rw [if_pos hhead]
  split <;> exact mem_apply_sadd _ m

theorem exec_connected_of_ok {c : Command} (h : (r.exec c).2 = .ok) :
    (r.exec c).1.connected = true := by
  unfold exec at h ⊢
  split at h
  · cases h
  · rename_i hc
    rw [if_neg hc]
    dsimp only at h ⊢
    rw [h]
    simp only [Reply.applied, if_true, apply_connected]
    simpa using hc

end Redis

section CacheOps

variable (r : Redis)

theorem redisCacheStoreObject_keeps (o : CachedObject) :
    r.Keeps (redisCacheStoreObject r o).1 fun _ => True := by
  unfold redisCacheStoreObject
  dsimp only
  split_ifs
  · exact .refl _ _
  · exact r.exec_keeps _
  · exact (r.exec_keeps_of_spares fun _ _ => by trivial).trans
      (Redis.exec_keeps_of_spares fun _ _ => by trivial)

/-- A successful store under a Redis that applies every command adds the index member. -/
theorem redisCacheStoreObject_index {o : CachedObject} (happ : r.AppliesAll)
    (h : (redisCacheStoreObject r o).2 = 0) :
    (o.objectType, o.objectInstance) ∈ (redisCacheStoreObject r o).1.index := by
  unfold redisCacheStoreObject at h ⊢
  dsimp only at h ⊢
  split_ifs at h ⊢ with hc hset
  · cases h
  · cases h
  · have hok : (r.exec (.set (o.objectType, o.objectInstance) (renderObject o))).2 = .ok := by
      simpa using hset
    exact Redis.mem_exec_sadd (Redis.exec_connected_of_ok hok)
      ((r.exec_keeps _).appliesAll happ) _

theorem redisCacheLoadObject_keeps (t : Int) (i : Nat) :
    r.Keeps (redisCacheLoadObject r t i).1 fun _ => True := by
  rw [redisCacheLoadObject_fst]
  split_ifs
  exacts [.refl _ _, r.exec_keeps _]

theorem redisCacheUpdateValue_keeps (t : Int) (i : Nat) (valueType : Int) (value : PresentValue)
    (flags : Option StatusFlags) (sourceTimestamp now : Int) :
    r.Keeps (redisCacheUpdateValue r t i valueType value flags sourceTimestamp now).1
      fun _ => True := by
  unfold redisCacheUpdateValue
  split
  · exact .refl _ _
  · dsimp only
    split
    · exact redisCacheLoadObject_keeps r t i
    · exact (redisCacheLoadObject_keeps r t i).trans (redisCacheStoreObject_keeps _ _)

theorem redisCacheDeleteObject_keeps (t : Int) (i : Nat) :
    r.Keeps (redisCacheDeleteObject r t i).1 fun k => (t, i) ≠ k := by
  unfold redisCacheDeleteObject
  split_ifs
  · exact .refl _ _
  · dsimp only
    exact (r.exec_keeps_of_spares fun _ h => by exact h).trans
      (Redis.exec_keeps_of_spares fun _ h => by exact h)

theorem redisCacheStoreStreamPosition_keeps (subscriptionId : CStr) (position : Nat) :
    r.Keeps (redisCacheStoreStreamPosition r subscriptionId position).1 fun _ => True := by
  unfold redisCacheStoreStreamPosition
  split_ifs
  exacts [.refl _ _, r.exec_keeps _]

theorem loadMembers_keeps (filter : Int) (ms : List ObjectKey) :
    r.Keeps (loadMembers filter r ms).1 fun _ => True := by
  induction ms generalizing r with
  | nil => exact .refl _ _
  | cons m ms ih =>
    obtain ⟨t, i⟩ := m
    simp only [loadMembers]
    split_ifs
    exacts [(redisCacheLoadObject_keeps r t i).trans (ih _), ih r]

theorem mem_loadMembers {filter : Int} {ms : List ObjectKey} {o : CachedObject}
    (ho : o ∈ (loadMembers filter r ms).2) :
    ∃ t i j, (t, i) ∈ ms ∧ r.objects (t, i) = some (some j) ∧ o = objectOfJson t i j := by
  induction ms generalizing r with
  | nil => cases ho
  | cons m ms ih =>
    obtain ⟨t, i⟩ := m
    simp only [loadMembers] at ho
    split_ifs at ho
    · rcases List.mem_append.mp ho with hfirst | hrest
      · obtain ⟨j, hj, rfl⟩ := redisCacheLoadObject_some r (Option.mem_toList.mp hfirst)
        exact ⟨t, i, j, List.mem_cons_self _ _, hj, rfl⟩
      · obtain ⟨t', i', j, hmem, hj, rfl⟩ := ih _ hrest
        rw [redisCacheLoadObject_objects] at hj
        exact ⟨t', i', j, List.mem_cons_of_mem _ hmem, hj, rfl⟩
    · obtain ⟨t', i', j, hmem, hj, rfl⟩ := ih r ho
      exact ⟨t', i', j, List.mem_cons_of_mem _ hmem, hj, rfl⟩

theorem redisCacheIterateObjects_keeps (filter : Int) :
    r.Keeps (redisCacheIterateObjects r filter).1 fun _ => True := by
  unfold redisCacheIterateObjects
  dsimp only
  split_ifs
  · exact .refl _ _
  · exact r.exec_keeps _
  · exact (r.exec_keeps_of_spares fun _ _ => by trivial).trans (loadMembers_keeps _ _ _)

theorem mem_redisCacheIterateObjects {filter : Int} {os : List CachedObject}
    (h : (redisCacheIterateObjects r filter).2 = some os) {o : CachedObject} (ho : o ∈ os) :
    ∃ t i j, (t, i) ∈ r.index ∧ r.objects (t, i) = some (some j) ∧ o = objectOfJson t i j := by
  unfold redisCacheIterateObjects at h
  dsimp only at h
  split_ifs at h
  cases h
  obtain ⟨t, i, j, hmem, hj, rfl⟩ := mem_loadMembers _ ho
  rw [Redis.exec_objects _ (c := .smembers) rfl] at hj
  exact ⟨t, i, j, hmem, hj, rfl⟩

end CacheOps

section ServerKeys

variable {s : BacnetServer} {type : Int} {inst : Nat}

/-- Deleting an object of a server with distinct keys leaves no object of its key. -/
theorem mem_keys_eraseP_isObject {l : List BacnetObjectInternal} (hnodup : (l.map objectKey).Nodup)
    {k : ObjectKey} (h : k ∈ (l.eraseP (isObject type inst)).map objectKey) :
    k ∈ l.map objectKey ∧ (type, inst) ≠ k := by
  induction l with
  | nil => cases h
  | cons o l ih =>
    rw [List.map_cons, List.nodup_cons] at hnodup
    by_cases ho : isObject type inst o = true
    · rw [List.eraseP_cons_of_pos ho] at h
      refine ⟨List.mem_cons_of_mem _ h, fun hk => hnodup.1 ?_⟩
      rw [isObject_eq_true_iff.mp ho, hk]
      exact h
    · rw [List.eraseP_cons_of_neg ho, List.map_cons, List.mem_cons] at h
      rcases h with rfl | h
      · exact ⟨List.mem_cons_self _ _, fun hk => ho (isObject_eq_true_iff.mpr hk.symm)⟩
      · obtain ⟨hk, hne⟩ := ih hnodup.2 h
        exact ⟨List.mem_cons_of_mem _ hk, hne⟩

theorem mem_keys_bacnetServerDeleteObject (hnodup : (s.objects.map objectKey).Nodup)
    {k : ObjectKey} (h : k ∈ (bacnetServerDeleteObject s type inst).1.objects.map objectKey) :
    k ∈ s.objects.map objectKey ∧ (type, inst) ≠ k := by
  unfold bacnetServerDeleteObject at h
  split at h
  · rename_i hnone
    refine ⟨h, fun hk => ?_⟩
    have := findObject_isSome_iff.mpr (hk ▸ h)
    rw [hnone] at this
    cases this
  · exact mem_keys_eraseP_isObject hnodup h

theorem mem_keys_bacnetServerCreateObject {name : CStr} {description : Option CStr}
    {initialValue : Option BacnetValue} {units : Nat} {covIncrement : CFloat} {now : Int}
    {k : ObjectKey} (h : k ∈ (bacnetServerCreateObject s type inst name description initialValue
      units covIncrement now).1.objects.map objectKey) :
    k ∈ s.objects.map objectKey ∨ k = (type, inst) := by
  rcases bacnetServerCreateObject_cases with heq | ⟨-, -, obj, hkey, heq⟩ <;> rw [heq] at h
  · exact .inl h
  · rw [List.map_cons, List.mem_cons, hkey] at h
    exact h.symm

/-- The create-or-update serves what the server served and the object of the record. -/
theorem ServerApi.mem_keys_bacnetServerCreateObject {o : CachedObject} {now : Int}
    {k : ObjectKey} (h : k ∈ (ServerApi.bacnetServerCreateObject s o now).1.objects.map objectKey) :
    k ∈ s.objects.map objectKey ∨ k = (o.objectType, o.objectInstance) := by
  unfold ServerApi.bacnetServerCreateObject at h
  split_ifs at h
  · exact .inl ((updateFirst_map (ServerApi.refreshObject o now) objectKey (fun _ => rfl)
      s.objects) ▸ h)
  · exact BacnetEventServer.mem_keys_bacnetServerCreateObject h

theorem keys_bacnetCovSendNotifications :
    (bacnetCovSendNotifications s type inst).1.objects.map objectKey = s.objects.map objectKey := by
  rcases bacnetCovSendNotifications_cases with heq | ⟨_, _, heq⟩ <;> rw [heq]
  exact updateFirst_map markCovValue objectKey (fun _ => rfl) _

/-- The entry points that create no object. -/
def ServerOp.createsObject : ServerOp → Bool
  | .createObject .. => true
  | _ => false

theorem ServerOp.keys_sublist (op : ServerOp) (hop : op.createsObject = false) :
    ((op.apply s).objects.map objectKey).Sublist (s.objects.map objectKey) := by
  cases op with
  | createObject => cases hop
  | deleteObject type inst =>
    rcases bacnetServerDeleteObject_cases with heq | ⟨-, -, heq⟩ <;> rw [ServerOp.apply, heq]
    exact (List.eraseP_sublist _).map _
  | updateValue type inst value checkCov now =>
    have hwrite := updateFirst_map (p := isObject type inst) (writePresentValue value now)
      objectKey (fun _ => rfl) s.objects
    rcases bacnetServerUpdateValue_cases with heq | heq | heq <;> rw [ServerOp.apply, heq]
    · rw [hwrite]
    · rw [keys_bacnetCovSendNotifications, hwrite]
  | covSubscribe =>
    rcases bacnetCovSubscribe_cases with heq | heq | ⟨-, -, -, heq⟩ <;> rw [ServerOp.apply, heq]
  | covUnsubscribe =>
    rcases bacnetCovUnsubscribe_cases with heq | ⟨-, heq⟩ <;> rw [ServerOp.apply, heq]
  | covSendNotifications => rw [ServerOp.apply, keys_bacnetCovSendNotifications]
  | covUpdateLifetimes | resetStats => exact .refl _

end ServerKeys

/-- The objects the server serves, by the key `find_object` looks them up by. -/
def Gateway.served (g : Gateway) : List ObjectKey := g.server.objects.map objectKey

/-- Every object the server serves has a record under its key. -/
def RecordsBacked (g : Gateway) : Prop := ∀ k ∈ g.served, (g.redis.objects k).isSome

/-- Every object the server serves is a member of `objects:index`. -/
def IndexBacked (g : Gateway) : Prop := ∀ k ∈ g.served, k ∈ g.redis.index

/-- What one step can do to the served objects and to what Redis holds of them: Redis keeps
the keys `p` spares, and every object served after the step was served before under a spared
key, or has its record and, when Redis applies every command, its index member. -/
def BackedStep (g g' : Gateway) : Prop :=
  ∃ p : ObjectKey → Prop, g.redis.Keeps g'.redis p ∧ ∀ k ∈ g'.served,
    (k ∈ g.served ∧ p k) ∨
      ((g'.redis.objects k).isSome ∧ (g.redis.AppliesAll → k ∈ g'.redis.index))

namespace BackedStep

variable {g g' : Gateway}

theorem of_keeps (hkeeps : g.redis.Keeps g'.redis fun _ => True) (hserved : g'.served ⊆ g.served) :
    BackedStep g g' :=
  ⟨_, hkeeps, fun _ hk => .inl ⟨hserved hk, trivial⟩⟩

theorem refl (g : Gateway) : BackedStep g g := of_keeps (.refl _ _) (List.Subset.refl _)

theorem keeps (h : BackedStep g g') {r : Redis} (hkeeps : g'.redis.Keeps r fun _ => True) :
    BackedStep g { g' with redis := r } := by
  obtain ⟨p, hstep, hserved⟩ := h
  refine ⟨p, hstep.trans (hkeeps.mono fun _ _ => trivial), fun k hk => ?_⟩
  rcases hserved k hk with hold | ⟨hrecord, hindex⟩
  · exact .inl hold
  · exact .inr ⟨hkeeps.records k trivial hrecord,
      fun happ => hkeeps.members k trivial (hindex happ)⟩

theorem recordsBacked (h : BackedStep g g') (hb : RecordsBacked g) : RecordsBacked g' := by
  obtain ⟨p, hkeeps, hserved⟩ := h
  intro k hk
  rcases hserved k hk with ⟨hold, hp⟩ | ⟨hrecord, -⟩
  exacts [hkeeps.records k hp (hb k hold), hrecord]

theorem indexBacked (h : BackedStep g g') (happ : g.redis.AppliesAll) (hb : IndexBacked g) :
    IndexBacked g' := by
  obtain ⟨p, hkeeps, hserved⟩ := h
  intro k hk
  rcases hserved k hk with ⟨hold, hp⟩ | ⟨-, hindex⟩
  exacts [hkeeps.members k hp (hb k hold), hindex happ]

theorem appliesAll (h : BackedStep g g') (happ : g.redis.AppliesAll) : g'.redis.AppliesAll :=
  h.choose_spec.1.appliesAll happ

end BackedStep

section Steps

variable (g : Gateway)

theorem messageHandlerProcessObjectDefinition_backedStep (msg : ObjectDefinitionMsg)
    (instanceOffset : Nat) (now : Int) :
    BackedStep g (messageHandlerProcessObjectDefinition g msg instanceOffset now).1 := by
  unfold messageHandlerProcessObjectDefinition
  dsimp only
  have hkeeps := redisCacheStoreObject_keeps g.redis (definitionRecord msg instanceOffset now)
  split
  · exact .of_keeps hkeeps (List.Subset.refl _)
  · rename_i hstored
    refine ⟨_, hkeeps, fun k hk => ?_⟩
    rcases ServerApi.mem_keys_bacnetServerCreateObject hk with hold | rfl
    · exact .inl ⟨hold, trivial⟩
    · have hok : (redisCacheStoreObject g.redis (definitionRecord msg instanceOffset now)).2 = 0 :=
        not_not.mp hstored
      refine .inr ⟨?_, fun happ => redisCacheStoreObject_index g.redis happ hok⟩
      rw [redisCacheStoreObject_objects hok]
      rfl

theorem messageHandlerProcessValueUpdate_backedStep (msg : ValueUpdateMsg) (instanceOffset : Nat)
    (now : Int) : BackedStep g (messageHandlerProcessValueUpdate g msg instanceOffset now).1 := by
  unfold messageHandlerProcessValueUpdate
  dsimp only
  split
  · exact .refl g
  · generalize (if msg.hasStatusFlags = true then some msg.statusFlags else none) = flags
    have hkeeps := redisCacheUpdateValue_keeps g.redis msg.objectType
      ((msg.objectInstance + instanceOffset) % 2 ^ 32) msg.valueType msg.presentValue flags now now
    split
    · exact .of_keeps hkeeps (List.Subset.refl _)
    · exact .of_keeps hkeeps (ServerOp.keys_sublist (.updateValue _ _ _ true now) rfl).subset

theorem messageHandlerProcessObjectDelete_backedStep (hnodup : g.served.Nodup)
    (msg : ObjectDeleteMsg) (instanceOffset : Nat) :
    BackedStep g (messageHandlerProcessObjectDelete g msg instanceOffset).1 :=
  ⟨_, redisCacheDeleteObject_keeps g.redis msg.objectType
      ((msg.objectInstance + instanceOffset) % 2 ^ 32),
    fun _ hk => .inl (mem_keys_bacnetServerDeleteObject hnodup hk)⟩

theorem messageHandlerProcess_backedStep (hnodup : g.served.Nodup) (msg : ParsedMessage)
    (instanceOffset : Nat) (now : Int) :
    BackedStep g (messageHandlerProcess g msg instanceOffset now).1 := by
  unfold messageHandlerProcess
  split
  · exact messageHandlerProcessObjectDefinition_backedStep g _ instanceOffset now
  · exact messageHandlerProcessValueUpdate_backedStep g _ instanceOffset now
  · exact messageHandlerProcessObjectDelete_backedStep g hnodup _ instanceOffset
  · exact .of_keeps (.refl _ _) (List.Subset.refl _)

theorem onEventReceived_backedStep (hnodup : g.served.Nodup) (e : ReceivedEvent) (now : Int) :
    BackedStep g (onEventReceived g e now).1 := by
  unfold onEventReceived
  split
  · exact .refl g
  · split
    · exact .refl g
    · rename_i msg _
      dsimp only
      have hstep := messageHandlerProcess_backedStep g hnodup msg
        (instanceOffsetOf g.subscriptions e.subscriptionId) now
      split_ifs
      · exact hstep.keeps (redisCacheStoreStreamPosition_keeps _ _ _)
      · exact hstep

/-- `load_object_callback`: create the record in the server and count the successes. -/
def loadObjectCallback (now : Int) (acc : BacnetServer × Nat) (o : CachedObject) :
    BacnetServer × Nat :=
  let step := ServerApi.bacnetServerCreateObject acc.1 o now
  (step.1, if step.2 = 0 then acc.2 + 1 else acc.2)

/-- The recovered server serves what it served and the records it was handed. -/
theorem mem_keys_recovered (s : BacnetServer) (os : List CachedObject) (now : Int) (n : Nat)
    {k : ObjectKey} (h : k ∈ (os.foldl (loadObjectCallback now) (s, n)).1.objects.map objectKey) :
    k ∈ s.objects.map objectKey ∨ ∃ o ∈ os, k = (o.objectType, o.objectInstance) := by
  induction os generalizing s n with
  | nil => exact .inl h
  | cons o os ih =>
    rcases ih _ _ h with hstep | ⟨o', ho', rfl⟩
    · rcases ServerApi.mem_keys_bacnetServerCreateObject hstep with hold | rfl
      exacts [.inl hold, .inr ⟨o, List.mem_cons_self _ _, rfl⟩]
    · exact .inr ⟨o', List.mem_cons_of_mem _ ho', rfl⟩

theorem recoverFromCache_backedStep (hblobs : BlobsNameKeys g.redis) (now : Int) :
    BackedStep g (recoverFromCache g now).1 := by
  have hkeeps := redisCacheIterateObjects_keeps g.redis objectTypeMax
  refine ⟨_, hkeeps, fun k hk => ?_⟩
  rcases mem_keys_recovered _ _ now 0 hk with hold | ⟨o, ho, rfl⟩
  · exact .inl ⟨hold, trivial⟩
  · right
    cases hloaded : (redisCacheIterateObjects g.redis objectTypeMax).2 with
    | none => rw [hloaded] at ho; cases ho
    | some os =>
      rw [hloaded] at ho
      obtain ⟨t, i, j, hmem, hj, rfl⟩ := mem_redisCacheIterateObjects g.redis hloaded ho
      rw [hblobs (t, i) j hj]
      exact ⟨hkeeps.records _ trivial (by rw [hj]; rfl), fun _ => hkeeps.members _ trivial hmem⟩

end Steps

/-- The gateway's steps after startup: deliveries and the server's entry points other than
the creation, which only the gateway calls. -/
def GatewayOp.isLive : GatewayOp → Bool
  | .recover _ => false
  | .deliver _ _ => true
  | .server op => !op.createsObject

theorem gatewayStep_wf {g : Gateway} (h : ServerWf g.server) (op : GatewayOp) :
    ServerWf (gatewayStep g op).server :=
  serverSteps_preserve (P := ServerWf) (fun _ op h => ServerOp.apply_wf h op)
    (fun _ o now _ h => refreshServerObject_wf h o now)
    (fun _ _ _ _ h => bacnetServerUpdateDevice_wf h _ _ _) (gatewayStep_serverSteps g op) h

theorem liveStep_backedStep {g : Gateway} (hnodup : g.served.Nodup) :
    ∀ op : GatewayOp, op.isLive = true → BackedStep g (gatewayStep g op)
  | .deliver e now, _ => onEventReceived_backedStep g hnodup e now
  | .server op, hop =>
    .of_keeps (.refl _ _) (ServerOp.keys_sublist op (by simpa [GatewayOp.isLive] using hop)).subset

/-- A property every `BackedStep` keeps holds over every run of live steps. -/
theorem liveRun_preserve {I : Gateway → Prop} (hstep : ∀ g g', BackedStep g g' → I g → I g')
    {g : Gateway} (hwf : ServerWf g.server) (h : I g) {ops : List GatewayOp}
    (hops : ∀ op ∈ ops, op.isLive = true) : I (gatewayRun g ops) := by
  induction ops generalizing g with
  | nil => exact h
  | cons op ops ih =>
    exact ih (gatewayStep_wf hwf op)
      (hstep _ _ (liveStep_backedStep hwf.keys_nodup op (hops op (List.mem_cons_self _ _))) h)
      fun op' hop' => hops op' (List.mem_cons_of_mem _ hop')

/-- The step of `recover_from_cache` into a fresh server. -/
theorem recovered_backedStep {redis : Redis} (hblobs : BlobsNameKeys redis)
    (config : BacnetServerConfig) (subscriptions : List Subscription) (now : Int) :
    BackedStep ⟨redis, bacnetServerCreate config, subscriptions⟩
      (gatewayStep ⟨redis, bacnetServerCreate config, subscriptions⟩ (.recover now)) :=
  recoverFromCache_backedStep _ hblobs now

/-- From startup, over every run of deliveries and of the server's entry points, and under
every pattern of Redis replies, every object the server serves has its record under its key
in Redis. -/
theorem served_objects_have_records {redis : Redis} (hblobs : BlobsNameKeys redis)
    (config : BacnetServerConfig) (subscriptions : List Subscription) (now : Int)
    {ops : List GatewayOp} (hops : ∀ op ∈ ops, op.isLive = true) :
    RecordsBacked (gatewayRun ⟨redis, bacnetServerCreate config, subscriptions⟩
      (.recover now :: ops)) :=
  liveRun_preserve (fun _ _ hstep hb => hstep.recordsBacked hb)
    (gatewayStep_wf (serverWf_create config) _)
    ((recovered_backedStep hblobs config subscriptions now).recordsBacked
      fun _ hk => absurd hk (List.not_mem_nil _))
    hops

/-- From an empty cache, through a definition and a lifetime update. -/
theorem served_objects_from_empty_cache :
    let redis : Redis := ⟨true, fun _ => none, [], fun _ => none, none, [], []⟩
    let definition : ReceivedEvent := ⟨some (some (.object
      [(lit "messageType", .string (lit "ObjectDefinition")), (lit "sourceId", .string (lit "s1")),
        (lit "payload", .object [(lit "objectType", .string (lit "analog-input")),
          (lit "objectInstance", .number (CDouble.ofInt 1)),
          (lit "objectName", .string (lit "T")),
          (lit "presentValueType", .string (lit "real"))])])), lit "sub", 10⟩
    let ops : List GatewayOp := [.deliver definition 1, .server .covUpdateLifetimes]
    BlobsNameKeys redis ∧ (∀ op ∈ ops, op.isLive = true) ∧
      RecordsBacked (gatewayRun ⟨redis, bacnetServerCreate ⟨1, [], [], [], 10, 10⟩, [⟨lit "sub", 0⟩]⟩
        (.recover 0 :: ops)) := by
  intro redis definition ops
  have hblobs : BlobsNameKeys redis := fun _ _ h => nomatch h
  have hops : ∀ op ∈ ops, op.isLive = true := by decide
  exact ⟨hblobs, hops, served_objects_have_records hblobs _ _ 0 hops⟩

/-- Under a Redis that applies every command, the index holds every served object. -/
theorem startupRun_indexBacked {redis : Redis} (hblobs : BlobsNameKeys redis)
    (happ : redis.AppliesAll) (config : BacnetServerConfig) (subscriptions : List Subscription)
    (now : Int) {ops : List GatewayOp} (hops : ∀ op ∈ ops, op.isLive = true) :
    (gatewayRun ⟨redis, bacnetServerCreate config, subscriptions⟩ (.recover now :: ops)).redis.AppliesAll ∧
      IndexBacked (gatewayRun ⟨redis, bacnetServerCreate config, subscriptions⟩
        (.recover now :: ops)) := by
  have hrecovered := recovered_backedStep hblobs config subscriptions now
  exact liveRun_preserve (I := fun g => g.redis.AppliesAll ∧ IndexBacked g)
    (fun _ _ hstep ⟨happ, hb⟩ => ⟨hstep.appliesAll happ, hstep.indexBacked happ hb⟩)
    (gatewayStep_wf (serverWf_create config) _)
    ⟨hrecovered.appliesAll happ, hrecovered.indexBacked happ fun _ hk => absurd hk
      (List.not_mem_nil _)⟩ hops

/-- Under a Redis that applies every command it answers, every object the server serves is
also a member of `objects:index`, so that a restart's `recover_from_cache` reads it. -/
theorem served_objects_indexed {redis : Redis} (hblobs : BlobsNameKeys redis)
    (happ : redis.AppliesAll) (config : BacnetServerConfig) (subscriptions : List Subscription)
    (now : Int) {ops : List GatewayOp} (hops : ∀ op ∈ ops, op.isLive = true) :
    IndexBacked (gatewayRun ⟨redis, bacnetServerCreate config, subscriptions⟩
      (.recover now :: ops)) :=
  (startupRun_indexBacked hblobs happ config subscriptions now hops).2

theorem served_objects_indexed_from_empty_cache :
    let redis : Redis := ⟨true, fun _ => none, [], fun _ => none, none, [], []⟩
    let definition : ReceivedEvent := ⟨some (some (.object
      [(lit "messageType", .string (lit "ObjectDefinition")), (lit "sourceId", .string (lit "s1")),
        (lit "payload", .object [(lit "objectType", .string (lit "analog-input")),
          (lit "objectInstance", .number (CDouble.ofInt 1)),
          (lit "objectName", .string (lit "T")),
          (lit "presentValueType", .string (lit "real"))])])), lit "sub", 10⟩
    let ops : List GatewayOp := [.deliver definition 1, .server .covUpdateLifetimes]
    BlobsNameKeys redis ∧ redis.AppliesAll ∧ (∀ op ∈ ops, op.isLive = true) ∧
      IndexBacked (gatewayRun ⟨redis, bacnetServerCreate ⟨1, [], [], [], 10, 10⟩, [⟨lit "sub", 0⟩]⟩
        (.recover 0 :: ops)) := by
  intro redis definition ops
  have hblobs : BlobsNameKeys redis := fun _ _ h => nomatch h
  have happ : redis.AppliesAll := fun _ h => nomatch h
  have hops : ∀ op ∈ ops, op.isLive = true := by decide
  exact ⟨hblobs, happ, hops, served_objects_indexed hblobs happ _ _ 0 hops⟩

end BacnetEventServer
