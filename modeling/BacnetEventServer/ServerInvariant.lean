import BacnetEventServer.Server

namespace BacnetEventServer

/-- The entry points of bacnet_server.c that change the server's state. -/
inductive ServerOp
  | createObject (type : Int) (inst : Nat) (name : CStr) (description : Option CStr)
      (initialValue : Option BacnetValue) (units : Nat) (covIncrement : CFloat) (now : Int)
  | deleteObject (type : Int) (inst : Nat)
  | updateValue (type : Int) (inst : Nat) (value : BacnetValue) (checkCov : Bool) (now : Int)
  | covSubscribe (type : Int) (inst pid : Nat) (addr : List UInt8) (confirmed : Bool)
      (lifetime : Nat) (now : Int)
  | covUnsubscribe (type : Int) (inst pid : Nat) (addr : Option (List UInt8))
  | covUpdateLifetimes
  | covSendNotifications (type : Int) (inst : Nat)
  | resetStats
  deriving DecidableEq, Repr

def ServerOp.apply (s : BacnetServer) : ServerOp → BacnetServer
  | .createObject t i n d v u c now => (bacnetServerCreateObject s t i n d v u c now).1
  | .deleteObject t i => (bacnetServerDeleteObject s t i).1
  | .updateValue t i v c now => (bacnetServerUpdateValue s t i v c now).1
  | .covSubscribe t i p a c l now => (bacnetCovSubscribe s t i p a c l now).1
  | .covUnsubscribe t i p a => (bacnetCovUnsubscribe s t i p a).1
  | .covUpdateLifetimes => bacnetCovUpdateLifetimes s
  | .covSendNotifications t i => (bacnetCovSendNotifications s t i).1
  | .resetStats => bacnetServerResetStats s

/-- The server after a sequence of entry points, each called on the state the previous one
left. -/
def runOps (s : BacnetServer) (ops : List ServerOp) : BacnetServer :=
  ops.foldl ServerOp.apply s

theorem runOps_induction (P : BacnetServer → Prop) {s : BacnetServer} {ops : List ServerOp}
    (hstep : ∀ s, ∀ op ∈ ops, P s → P (op.apply s)) (hs : P s) : P (runOps s ops) := by
  induction ops generalizing s with
  | nil => exact hs
  | cons op ops ih =>
    exact ih (fun s' op' hop => hstep s' op' (List.mem_cons_of_mem _ hop))
      (hstep s op (List.mem_cons_self _ _) hs)

/-- The identity `find_object` looks an object up by. -/
def objectKey (o : BacnetObjectInternal) : Int × Nat := (o.type, o.inst)

/-- The identity `bacnet_cov_subscribe` looks a subscription up by: object, process id and
address. -/
def subIdentity (sub : CovSubscription) : Int × Nat × Nat × List UInt8 :=
  (sub.objectType, sub.objectInstance, sub.subscriberProcessId, sub.subscriberAddress)

theorem updateFirst_map {α β : Type} {p : α → Bool} (f : α → α) (g : α → β)
    (hf : ∀ a, g (f a) = g a) (l : List α) : (updateFirst p f l).map g = l.map g := by
  induction l with
  | nil => rfl
  | cons a as ih => by_cases h : p a <;> simp [updateFirst, h, hf, ih]

theorem findObject_isSome_iff {s : BacnetServer} {type : Int} {inst : Nat} :
    (findObject s type inst).isSome ↔ (type, inst) ∈ s.objects.map objectKey := by
  simp [findObject, isObject, objectKey]

theorem any_sameSubscriber_iff {subs : List CovSubscription} {type : Int} {inst pid : Nat}
    {addr : List UInt8} :
    subs.any (sameSubscriber type inst pid addr) ↔
      (type, inst, pid, addr) ∈ subs.map subIdentity := by
  simp [sameSubscriber, subIdentity, and_assoc]

theorem tickSubscription_map {β : Type} {g : CovSubscription → β}
    (hg : ∀ sub : CovSubscription, g { sub with lifetime := sub.lifetime - 1 } = g sub)
    {sub sub' : CovSubscription} (h : tickSubscription sub = some sub') : g sub' = g sub := by
  unfold tickSubscription at h
  split at h
  · split at h
    · cases h
    · cases h; exact hg sub
  · cases h; rfl

theorem filterMap_tickSubscription_sublist {β : Type} (g : CovSubscription → β)
    (hg : ∀ sub : CovSubscription, g { sub with lifetime := sub.lifetime - 1 } = g sub)
    (l : List CovSubscription) :
    List.Sublist ((l.filterMap tickSubscription).map g) (l.map g) := by
  induction l with
  | nil => exact List.Sublist.slnil
  | cons a as ih =>
    cases h : tickSubscription a with
    | none => simpa [List.filterMap_cons, h] using ih.cons _
    | some b => simpa [List.filterMap_cons, h, tickSubscription_map hg h] using ih.cons₂ (g a)

/-- What every reachable server keeps: distinct objects counted by `object_count` within
`max_objects`, `objects_total` following the count through its `uint32_t` copy, and
distinct subscriptions counted by `cov_subscription_count` within the configured maximum
read as a `size_t`. -/
structure ServerWf (s : BacnetServer) : Prop where
  keys_nodup : (s.objects.map objectKey).Nodup
  objectCount_eq : s.objectCount = s.objects.length
  objectCount_le : s.objectCount ≤ s.config.maxObjects
  objectsTotal_le : s.stats.objectsTotal ≤ s.objectCount
  objectsTotal_mod : s.stats.objectsTotal % 2 ^ 32 = s.objectCount % 2 ^ 32
  identities_nodup : (s.covSubscriptions.map subIdentity).Nodup
  subscriptionCount_eq : s.covSubscriptionCount = s.covSubscriptions.length
  subscriptionCount_le : s.covSubscriptionCount ≤ sizeT s.config.maxCovSubscriptions

theorem serverWf_create (config : BacnetServerConfig) : ServerWf (bacnetServerCreate config) :=
  ⟨List.nodup_nil, rfl, Nat.zero_le _, le_rfl, rfl, List.nodup_nil, rfl, Nat.zero_le _⟩

variable {s : BacnetServer}

/-- An entry point that keeps the keys, counts and configuration keeps the invariant. -/
theorem ServerWf.frame (h : ServerWf s) {s' : BacnetServer}
    (hkeys : s'.objects.map objectKey = s.objects.map objectKey)
    (hcount : s'.objectCount = s.objectCount)
    (htotal : s'.stats.objectsTotal = s.stats.objectsTotal)
    (hsubs : s'.covSubscriptions.map subIdentity = s.covSubscriptions.map subIdentity)
    (hsubCount : s'.covSubscriptionCount = s.covSubscriptionCount)
    (hconfig : s'.config = s.config) : ServerWf s' where
  keys_nodup := hkeys ▸ h.keys_nodup
  objectCount_eq := by
    rw [hcount, h.objectCount_eq, ← List.length_map s.objects objectKey, ← hkeys,
      List.length_map]
  objectCount_le := hcount ▸ hconfig ▸ h.objectCount_le
  objectsTotal_le := hcount ▸ htotal ▸ h.objectsTotal_le
  objectsTotal_mod := hcount ▸ htotal ▸ h.objectsTotal_mod
  identities_nodup := hsubs ▸ h.identities_nodup
  subscriptionCount_eq := by
    rw [hsubCount, h.subscriptionCount_eq, ← List.length_map s.covSubscriptions subIdentity,
      ← hsubs, List.length_map]
  subscriptionCount_le := hsubCount ▸ hconfig ▸ h.subscriptionCount_le

section Inversion

variable {s : BacnetServer} {type : Int} {inst : Nat}

theorem bacnetServerCreateObject_cases {name : CStr} {description : Option CStr}
    {initialValue : Option BacnetValue} {units : Nat} {covIncrement : CFloat} {now : Int} :
    (bacnetServerCreateObject s type inst name description initialValue units covIncrement
      now).1 = s ∨
    ((type, inst) ∉ s.objects.map objectKey ∧ s.objectCount < s.config.maxObjects ∧
      ∃ obj, objectKey obj = (type, inst) ∧
        (bacnetServerCreateObject s type inst name description initialValue units covIncrement
          now).1 = { s with objects := obj :: s.objects, objectCount := s.objectCount + 1,
                            stats := { s.stats with objectsTotal := s.objectCount + 1 } }) := by
  unfold bacnetServerCreateObject
  split
  · exact .inl rfl
  split
  · exact .inl rfl
  rename_i hfound hfull
  refine .inr ⟨findObject_isSome_iff.not.mp hfound, Nat.lt_of_not_le hfull, _, ?_, rfl⟩
  rfl

theorem bacnetServerDeleteObject_cases :
    (bacnetServerDeleteObject s type inst).1 = s ∨
    ((type, inst) ∈ s.objects.map objectKey ∧
      (s.objects.eraseP (isObject type inst)).length = s.objects.length - 1 ∧
      (bacnetServerDeleteObject s type inst).1 =
        { s with objects := s.objects.eraseP (isObject type inst),
                 objectCount := s.objectCount - 1,
                 stats := { s.stats with objectsTotal := s.objectCount - 1 } }) := by
  unfold bacnetServerDeleteObject
  split
  · exact .inl rfl
  rename_i obj hfound
  exact .inr ⟨findObject_isSome_iff.mp (by simp [hfound]),
    List.length_eraseP_of_mem (List.mem_of_find?_eq_some hfound) (List.find?_some hfound), rfl⟩

theorem bacnetCovSendNotifications_cases :
    (bacnetCovSendNotifications s type inst).1 = s ∨
    ∃ obj, findObject s type inst = some obj ∧
      (bacnetCovSendNotifications s type inst).1 =
        { s with objects := updateFirst (isObject type inst) markCovValue s.objects,
                 stats := { s.stats with covNotificationsSent := s.stats.covNotificationsSent +
                   (s.covSubscriptions.filter (covTarget type inst)).length },
                 outbox := s.outbox ++
                   (s.covSubscriptions.filter (covTarget type inst)).map
                     (notificationFor obj) } := by
  unfold bacnetCovSendNotifications
  split
  · exact .inl rfl
  · exact .inr ⟨_, ‹_›, rfl⟩

theorem bacnetServerUpdateValue_cases {value : BacnetValue} {checkCov : Bool} {now : Int} :
    let s1 := { s with objects :=
      (updateFirst (isObject type inst) (writePresentValue value now) s.objects) }
    (bacnetServerUpdateValue s type inst value checkCov now).1 = s ∨
    (bacnetServerUpdateValue s type inst value checkCov now).1 = s1 ∨
    (bacnetServerUpdateValue s type inst value checkCov now).1 =
      (bacnetCovSendNotifications s1 type inst).1 := by
  unfold bacnetServerUpdateValue
  split
  · exact .inl rfl
  · split
    · exact .inr (.inr rfl)
    · exact .inr (.inl rfl)

theorem bacnetCovSubscribe_cases {pid : Nat} {addr : List UInt8} {confirmed : Bool}
    {lifetime : Nat} {now : Int} :
    (bacnetCovSubscribe s type inst pid addr confirmed lifetime now).1 = s ∨
    ((bacnetCovSubscribe s type inst pid addr confirmed lifetime now).1 =
      { s with covSubscriptions := (updateFirst (sameSubscriber type inst pid addr)
          (renewSubscription confirmed lifetime now) s.covSubscriptions) }) ∨
    ((type, inst) ∈ s.objects.map objectKey ∧
      (type, inst, pid, addr) ∉ s.covSubscriptions.map subIdentity ∧
      s.covSubscriptionCount < sizeT s.config.maxCovSubscriptions ∧
      (bacnetCovSubscribe s type inst pid addr confirmed lifetime now).1 =
        { s with covSubscriptions := ⟨pid, addr, type, inst, confirmed, lifetime, now⟩ ::
                   s.covSubscriptions,
                 covSubscriptionCount := s.covSubscriptionCount + 1 }) := by
  unfold bacnetCovSubscribe
  split
  · exact .inl rfl
  split
  · exact .inl rfl
  split
  · exact .inl rfl
  rename_i _ hmissing hfull
  split
  · exact .inr (.inl rfl)
  · rename_i hfresh
    refine .inr (.inr ⟨findObject_isSome_iff.mp ?_, any_sameSubscriber_iff.not.mp hfresh,
      Nat.lt_of_not_le hfull, rfl⟩)
    simpa [Option.isSome_iff_ne_none] using hmissing

theorem bacnetCovUnsubscribe_cases {pid : Nat} {addr : Option (List UInt8)} :
    (bacnetCovUnsubscribe s type inst pid addr).1 = s ∨
    ((s.covSubscriptions.eraseP (unsubscribeMatch type inst pid addr)).length =
        s.covSubscriptions.length - 1 ∧
      (bacnetCovUnsubscribe s type inst pid addr).1 =
        { s with covSubscriptions :=
                   (s.covSubscriptions.eraseP (unsubscribeMatch type inst pid addr)),
                 covSubscriptionCount := s.covSubscriptionCount - 1 }) := by
  unfold bacnetCovUnsubscribe
  split
  · rename_i hany
    obtain ⟨sub, hmem, hmatch⟩ := List.any_eq_true.mp hany
    exact .inr ⟨List.length_eraseP_of_mem hmem hmatch, rfl⟩
  · exact .inl rfl

end Inversion

section Preservation

variable {s : BacnetServer} {type : Int} {inst : Nat}

theorem bacnetServerCreateObject_wf (h : ServerWf s) {name : CStr}
    {description : Option CStr} {initialValue : Option BacnetValue} {units : Nat}
    {covIncrement : CFloat} {now : Int} :
    ServerWf (bacnetServerCreateObject s type inst name description initialValue units
      covIncrement now).1 := by
  rcases bacnetServerCreateObject_cases with heq | ⟨hnew, hroom, obj, hkey, heq⟩ <;> rw [heq]
  · exact h
  · have hcount := h.objectCount_eq
    exact { h with
            keys_nodup := List.nodup_cons.mpr ⟨hkey ▸ hnew, h.keys_nodup⟩
            objectCount_eq := by simp [hcount]
            objectCount_le := hroom
            objectsTotal_le := le_rfl
            objectsTotal_mod := rfl }

theorem bacnetServerDeleteObject_wf (h : ServerWf s) :
    ServerWf (bacnetServerDeleteObject s type inst).1 := by
  rcases bacnetServerDeleteObject_cases with heq | ⟨_, hlen, heq⟩ <;> rw [heq]
  · exact h
  · have hcount := h.objectCount_eq
    have hmax := h.objectCount_le
    exact { h with
            keys_nodup := h.keys_nodup.sublist ((List.eraseP_sublist _).map _)
            objectCount_eq := by simp only [hlen]; omega
            objectCount_le := by simp only; omega
            objectsTotal_le := le_rfl
            objectsTotal_mod := rfl }

theorem bacnetCovSendNotifications_wf (h : ServerWf s) :
    ServerWf (bacnetCovSendNotifications s type inst).1 := by
  rcases bacnetCovSendNotifications_cases with heq | ⟨_, _, heq⟩ <;> rw [heq]
  · exact h
  · exact h.frame (updateFirst_map markCovValue objectKey (fun _ => rfl) _) rfl rfl rfl rfl rfl

theorem bacnetServerUpdateValue_wf (h : ServerWf s) {value : BacnetValue} {checkCov : Bool}
    {now : Int} : ServerWf (bacnetServerUpdateValue s type inst value checkCov now).1 := by
  have h1 : ServerWf { s with objects :=
      (updateFirst (isObject type inst) (writePresentValue value now) s.objects) } :=
    h.frame (updateFirst_map (writePresentValue value now) objectKey (fun _ => rfl) _)
      rfl rfl rfl rfl rfl
  rcases bacnetServerUpdateValue_cases with heq | heq | heq <;> rw [heq]
  exacts [h, h1, bacnetCovSendNotifications_wf h1]

theorem bacnetCovSubscribe_wf (h : ServerWf s) {pid : Nat} {addr : List UInt8}
    {confirmed : Bool} {lifetime : Nat} {now : Int} :
    ServerWf (bacnetCovSubscribe s type inst pid addr confirmed lifetime now).1 := by
  rcases bacnetCovSubscribe_cases with heq | heq | ⟨_, hnew, hroom, heq⟩ <;> rw [heq]
  · exact h
  · exact h.frame rfl rfl rfl
      (updateFirst_map (renewSubscription confirmed lifetime now) subIdentity (fun _ => rfl) _)
      rfl rfl
  · have hcount := h.subscriptionCount_eq
    exact { h with
            identities_nodup := List.nodup_cons.mpr ⟨hnew, h.identities_nodup⟩
            subscriptionCount_eq := by simp [hcount]
            subscriptionCount_le := hroom }

theorem bacnetCovUnsubscribe_wf (h : ServerWf s) {pid : Nat} {addr : Option (List UInt8)} :
    ServerWf (bacnetCovUnsubscribe s type inst pid addr).1 := by
  rcases bacnetCovUnsubscribe_cases with heq | ⟨hlen, heq⟩ <;> rw [heq]
  · exact h
  · have hcount := h.subscriptionCount_eq
    have hmax := h.subscriptionCount_le
    exact { h with
            identities_nodup := h.identities_nodup.sublist ((List.eraseP_sublist _).map _)
            subscriptionCount_eq := by simp only [hlen]; omega
            subscriptionCount_le := by simp only; omega }

theorem bacnetCovUpdateLifetimes_wf (h : ServerWf s) : ServerWf (bacnetCovUpdateLifetimes s) := by
  have hle := List.length_filterMap_le tickSubscription s.covSubscriptions
  have hcount := h.subscriptionCount_eq
  have hmax := h.subscriptionCount_le
  exact { h with
          identities_nodup :=
            h.identities_nodup.sublist
              (filterMap_tickSubscription_sublist subIdentity (fun _ => rfl) s.covSubscriptions)
          subscriptionCount_eq := by simp only [bacnetCovUpdateLifetimes]; omega
          subscriptionCount_le := by simp only [bacnetCovUpdateLifetimes]; omega }

theorem bacnetServerResetStats_wf (h : ServerWf s) : ServerWf (bacnetServerResetStats s) :=
  { h with
    objectsTotal_le := (Nat.mod_le _ _).trans h.objectsTotal_le
    objectsTotal_mod := (Nat.mod_mod _ _).trans h.objectsTotal_mod }

theorem ServerOp.apply_wf (h : ServerWf s) (op : ServerOp) : ServerWf (op.apply s) := by
  cases op with
  | createObject => exact bacnetServerCreateObject_wf h
  | deleteObject => exact bacnetServerDeleteObject_wf h
  | updateValue => exact bacnetServerUpdateValue_wf h
  | covSubscribe => exact bacnetCovSubscribe_wf h
  | covUnsubscribe => exact bacnetCovUnsubscribe_wf h
  | covUpdateLifetimes => exact bacnetCovUpdateLifetimes_wf h
  | covSendNotifications => exact bacnetCovSendNotifications_wf h
  | resetStats => exact bacnetServerResetStats_wf h

end Preservation

/-- Every server reached from a fresh one through the entry points keeps the invariant. -/
theorem runOps_wf (config : BacnetServerConfig) (ops : List ServerOp) :
    ServerWf (runOps (bacnetServerCreate config) ops) :=
  runOps_induction ServerWf (fun _ op _ h => ServerOp.apply_wf h op) (serverWf_create config)

theorem ServerOp.apply_config (s : BacnetServer) (op : ServerOp) :
    (op.apply s).config = s.config := by
  have hsend : ∀ s type inst, (bacnetCovSendNotifications s type inst).1.config = s.config := by
    intro s type inst
    rcases bacnetCovSendNotifications_cases with heq | ⟨_, _, heq⟩ <;> rw [heq]
  cases op with
  | createObject =>
    rcases bacnetServerCreateObject_cases with heq | ⟨_, _, _, _, heq⟩ <;> rw [ServerOp.apply, heq]
  | deleteObject =>
    rcases bacnetServerDeleteObject_cases with heq | ⟨_, _, heq⟩ <;> rw [ServerOp.apply, heq]
  | updateValue =>
    rcases bacnetServerUpdateValue_cases with heq | heq | heq <;> rw [ServerOp.apply, heq]
    exact hsend _ _ _
  | covSubscribe =>
    rcases bacnetCovSubscribe_cases with heq | heq | ⟨_, _, _, heq⟩ <;> rw [ServerOp.apply, heq]
  | covUnsubscribe =>
    rcases bacnetCovUnsubscribe_cases with heq | ⟨_, heq⟩ <;> rw [ServerOp.apply, heq]
  | covUpdateLifetimes => rfl
  | covSendNotifications => exact hsend _ _ _
  | resetStats => rfl

/-- A negative `max_cov_subscriptions` is compared as the `size_t` `SIZE_MAX`: the
subscription is accepted although the count then exceeds the configured maximum. -/
theorem covSubscriptionCount_exceeds_negative_maximum :
    let config : BacnetServerConfig := ⟨1, [], [], [], 10, -1⟩
    let s := runOps (bacnetServerCreate config)
      [.createObject 0 1 [] none none 95 ⟨0⟩ 0, .covSubscribe 0 1 7 [] false 300 0]
    s.covSubscriptionCount = 1 ∧
      ¬ ((s.covSubscriptionCount : Int) ≤ config.maxCovSubscriptions) := by
  decide

theorem runOps_config (s : BacnetServer) (ops : List ServerOp) :
    (runOps s ops).config = s.config :=
  runOps_induction (fun s' => s'.config = s.config)
    (fun s' op _ h => (ServerOp.apply_config s' op).trans h) rfl

end BacnetEventServer
