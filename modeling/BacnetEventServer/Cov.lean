import BacnetEventServer.ServerInvariant

namespace BacnetEventServer

/-- The object a subscription is for. -/
def subObject (sub : CovSubscription) : Int × Nat := (sub.objectType, sub.objectInstance)

/-- Every COV subscription is for an object the server holds. -/
def SubscriptionsReferToObjects (s : BacnetServer) : Prop :=
  s.covSubscriptions.map subObject ⊆ s.objects.map objectKey

def ServerOp.deletesObject : ServerOp → Bool
  | .deleteObject _ _ => true
  | _ => false

/-- `bacnet_server_delete_object` unlinks the object and leaves the subscriptions alone. -/
theorem bacnetServerDeleteObject_covSubscriptions (s : BacnetServer) (type : Int) (inst : Nat) :
    (bacnetServerDeleteObject s type inst).1.covSubscriptions = s.covSubscriptions := by
  rcases bacnetServerDeleteObject_cases with heq | ⟨_, _, heq⟩ <;> rw [heq]

section Refer

variable {s : BacnetServer} {type : Int} {inst : Nat}

theorem SubscriptionsReferToObjects.frame (h : SubscriptionsReferToObjects s) {s' : BacnetServer}
    (hkeys : s'.objects.map objectKey = s.objects.map objectKey)
    (hsubs : s'.covSubscriptions.map subObject = s.covSubscriptions.map subObject) :
    SubscriptionsReferToObjects s' := by
  unfold SubscriptionsReferToObjects
  rw [hkeys, hsubs]
  exact h

theorem SubscriptionsReferToObjects.sendNotifications (h : SubscriptionsReferToObjects s) :
    SubscriptionsReferToObjects (bacnetCovSendNotifications s type inst).1 := by
  rcases bacnetCovSendNotifications_cases with heq | ⟨_, _, heq⟩ <;> rw [heq]
  · exact h
  · exact h.frame (updateFirst_map markCovValue objectKey (fun _ => rfl) _) rfl

theorem SubscriptionsReferToObjects.apply (h : SubscriptionsReferToObjects s) (op : ServerOp)
    (hop : op.deletesObject = false) : SubscriptionsReferToObjects (op.apply s) := by
  cases op with
  | createObject =>
    rcases bacnetServerCreateObject_cases with heq | ⟨_, _, obj, _, heq⟩ <;>
      rw [ServerOp.apply, heq]
    · exact h
    · exact fun _ hk => List.mem_cons_of_mem _ (h hk)
  | deleteObject => cases hop
  | updateValue type inst value checkCov now =>
    have h1 : SubscriptionsReferToObjects { s with objects :=
        (updateFirst (isObject type inst) (writePresentValue value now) s.objects) } :=
      h.frame (updateFirst_map (writePresentValue value now) objectKey (fun _ => rfl) _) rfl
    rcases bacnetServerUpdateValue_cases with heq | heq | heq <;> rw [ServerOp.apply, heq]
    exacts [h, h1, h1.sendNotifications]
  | covSubscribe type inst pid addr confirmed lifetime now =>
    rcases bacnetCovSubscribe_cases with heq | heq | ⟨hobj, _, _, heq⟩ <;> rw [ServerOp.apply, heq]
    · exact h
    · exact h.frame rfl
        (updateFirst_map (renewSubscription confirmed lifetime now) subObject (fun _ => rfl) _)
    · exact List.cons_subset.mpr ⟨hobj, h⟩
  | covUnsubscribe =>
    rcases bacnetCovUnsubscribe_cases with heq | ⟨_, heq⟩ <;> rw [ServerOp.apply, heq]
    · exact h
    · exact ((List.eraseP_sublist _).map subObject).subset.trans h
  | covUpdateLifetimes =>
    exact (filterMap_tickSubscription_sublist subObject (fun _ => rfl) _).subset.trans h
  | covSendNotifications => exact h.sendNotifications
  | resetStats => exact h

end Refer

/-- A deleted object's subscriptions stay: after subscribing to an object and deleting it,
the server holds a subscription for an object it cannot find. -/
theorem subscription_outlives_deleted_object :
    let s : BacnetServer := runOps (bacnetServerCreate ⟨1, [], [], [], 10, 10⟩)
      [.createObject 0 1 [] none none 95 ⟨0⟩ 0, .covSubscribe 0 1 7 [] false 300 0,
        .deleteObject 0 1]
    s.covSubscriptions.length = 1 ∧
      ∀ sub ∈ s.covSubscriptions, findObject s sub.objectType sub.objectInstance = none := by
  decide

/-- Through every run of the entry points other than `bacnet_server_delete_object`, every
subscription is for an object the server holds; `bacnet_server_delete_object` removes no
subscription. -/
theorem subscriptions_refer_to_objects_without_delete (config : BacnetServerConfig)
    (ops : List ServerOp) (hops : ∀ op ∈ ops, op.deletesObject = false) :
    SubscriptionsReferToObjects (runOps (bacnetServerCreate config) ops) ∧
      ∀ s type inst, (bacnetServerDeleteObject s type inst).1.covSubscriptions =
        s.covSubscriptions :=
  ⟨runOps_induction SubscriptionsReferToObjects (fun _ op hop h => h.apply op (hops op hop))
      (List.nil_subset _),
    bacnetServerDeleteObject_covSubscriptions⟩

theorem subscriptions_refer_to_objects_after_subscribe :
    (∀ op ∈ [ServerOp.createObject 0 1 [] none none 95 ⟨0⟩ 0,
        .covSubscribe 0 1 7 [] false 300 0], op.deletesObject = false) ∧
    SubscriptionsReferToObjects (runOps (bacnetServerCreate ⟨1, [], [], [], 10, 10⟩)
      [.createObject 0 1 [] none none 95 ⟨0⟩ 0, .covSubscribe 0 1 7 [] false 300 0]) :=
  ⟨by decide, (subscriptions_refer_to_objects_without_delete ⟨1, [], [], [], 10, 10⟩
    [.createObject 0 1 [] none none 95 ⟨0⟩ 0, .covSubscribe 0 1 7 [] false 300 0]
    (by decide)).1⟩

theorem tickSubscription_of_lifetime_zero {sub : CovSubscription} (h : sub.lifetime = 0) :
    tickSubscription sub = some sub := by
  simp [tickSubscription, h]

theorem mem_bacnetCovUpdateLifetimes_of_lifetime_zero {s : BacnetServer} {sub : CovSubscription}
    (hmem : sub ∈ s.covSubscriptions) (h : sub.lifetime = 0) :
    sub ∈ (bacnetCovUpdateLifetimes s).covSubscriptions :=
  List.mem_filterMap.mpr ⟨sub, hmem, tickSubscription_of_lifetime_zero h⟩

/-- Every notification carries the positive lifetime of the subscription notified. -/
theorem bacnetCovSendNotifications_timeRemaining_pos {s : BacnetServer} {type : Int}
    {inst : Nat} {n : CovNotification}
    (hn : n ∈ (bacnetCovSendNotifications s type inst).1.outbox) :
    n ∈ s.outbox ∨ 0 < n.timeRemaining := by
  rcases bacnetCovSendNotifications_cases with heq | ⟨obj, _, heq⟩ <;> rw [heq] at hn
  · exact .inl hn
  · rcases List.mem_append.mp hn with hold | hnew
    · exact .inl hold
    · obtain ⟨sub, hsub, rfl⟩ := List.mem_map.mp hnew
      simp only [List.mem_filter, covTarget, Bool.and_eq_true, decide_eq_true_eq] at hsub
      exact .inr hsub.2.2

/-- A subscription made with lifetime 0 is kept by the lifetime loop and passed over by
the notification loop: after the object's value changes it is still stored and nothing was
sent. -/
theorem zero_lifetime_subscription_kept_silent :
    let s : BacnetServer := runOps (bacnetServerCreate ⟨1, [], [], [], 10, 10⟩)
      [.createObject 0 1 [] none (some (.real ⟨0x41A00000⟩)) 95 ⟨0⟩ 0,
        .covSubscribe 0 1 7 [] false 0 0, .covUpdateLifetimes,
        .updateValue 0 1 (.real ⟨0x41B00000⟩) true 2]
    s.covSubscriptions.map CovSubscription.lifetime = [0] ∧ s.outbox = [] := by
  decide

theorem mem_updateFirst_of_any {α : Type} {p : α → Bool} (f : α → α) {l : List α}
    (h : l.any p) : ∃ a ∈ l, p a ∧ f a ∈ updateFirst p f l := by
  induction l with
  | nil => cases h
  | cons a as ih =>
    by_cases ha : p a
    · exact ⟨a, List.mem_cons_self _ _, ha, by simp [updateFirst, ha]⟩
    · obtain ⟨b, hb, hpb, hfb⟩ := ih (by simpa [ha] using h)
      exact ⟨b, List.mem_cons_of_mem _ hb, hpb, by simp [updateFirst, ha, hfb]⟩

/-- `bacnet_cov_subscribe` checks the capacity before it looks for the subscriber: at capacity a
renewal is refused and the server left as it was; below, it renews in place. -/
theorem renewal_refused_at_capacity (s : BacnetServer) (type : Int) (inst pid : Nat)
    (addr : List UInt8) (confirmed : Bool) (lifetime : Nat) (now : Int)
    (haddr : addr.length ≤ 32) (hobj : (findObject s type inst).isSome)
    (hmem : (type, inst, pid, addr) ∈ s.covSubscriptions.map subIdentity) :
    ((bacnetCovSubscribe s type inst pid addr confirmed lifetime now).2 = true ↔
      s.covSubscriptionCount < sizeT s.config.maxCovSubscriptions) ∧
    (sizeT s.config.maxCovSubscriptions ≤ s.covSubscriptionCount →
      (bacnetCovSubscribe s type inst pid addr confirmed lifetime now).1 = s) ∧
    (s.covSubscriptionCount < sizeT s.config.maxCovSubscriptions →
      ∃ sub ∈ (bacnetCovSubscribe s type inst pid addr confirmed lifetime now).1.covSubscriptions,
        subIdentity sub = (type, inst, pid, addr) ∧ sub.lifetime = lifetime ∧
          sub.confirmed = confirmed) := by
  have hany := any_sameSubscriber_iff.mpr hmem
  have hfound : ¬ (findObject s type inst).isNone := by
    rw [Option.isNone_iff_eq_none]
    exact Option.isSome_iff_ne_none.mp hobj
  unfold bacnetCovSubscribe
  rw [if_neg (by omega), if_neg hfound]
  by_cases hfull : s.covSubscriptionCount ≥ sizeT s.config.maxCovSubscriptions
  · rw [if_pos hfull]
    exact ⟨by simp only [Bool.false_eq_true, false_iff]; omega, fun _ => rfl,
      fun h => absurd h (by omega)⟩
  · rw [if_neg hfull, if_pos hany]
    refine ⟨by simp only [true_iff]; omega, fun h => absurd h (by omega), fun _ => ?_⟩
    obtain ⟨sub, -, hsame, hrenewed⟩ :=
      mem_updateFirst_of_any (renewSubscription confirmed lifetime now) hany
    refine ⟨_, hrenewed, ?_, rfl, rfl⟩
    simpa [sameSubscriber, subIdentity, renewSubscription, and_assoc] using hsame

/-- A table of one subscription is full: its own subscriber's renewal is refused. -/
theorem renewal_refused_when_table_full :
    let s : BacnetServer := runOps (bacnetServerCreate ⟨1, [], [], [], 10, 1⟩)
      [.createObject 0 1 [] none none 95 ⟨0⟩ 0, .covSubscribe 0 1 7 [] false 300 0]
    ([] : List UInt8).length ≤ 32 ∧ (findObject s 0 1).isSome ∧
      ((0 : Int), (1 : Nat), (7 : Nat), ([] : List UInt8)) ∈ s.covSubscriptions.map subIdentity ∧
      (bacnetCovSubscribe s 0 1 7 [] true 600 5).1 = s ∧
      (bacnetCovSubscribe s 0 1 7 [] true 600 5).2 = false := by
  refine ⟨?haddr, ?hobj, ?hmem,
    (renewal_refused_at_capacity _ 0 1 7 [] true 600 5 ?haddr ?hobj ?hmem).2.1 ?hfull, ?_⟩
  all_goals decide

/-- What `k` passes of the lifetime loop leave of a subscription. -/
def tickTimes (k : Nat) (sub : CovSubscription) : Option CovSubscription :=
  if sub.lifetime = 0 then some sub
  else if k < sub.lifetime then some { sub with lifetime := sub.lifetime - k } else none

theorem tickTimes_zero (sub : CovSubscription) : tickTimes 0 sub = some sub := by
  unfold tickTimes
  split_ifs <;> simp_all

theorem tickTimes_succ (k : Nat) (sub : CovSubscription) :
    (tickTimes k sub).bind tickSubscription = tickTimes (k + 1) sub := by
  unfold tickTimes tickSubscription
  by_cases h0 : sub.lifetime = 0
  · simp [h0]
  · by_cases hk : k + 1 < sub.lifetime
    · simp [h0, hk, show k < sub.lifetime by omega, show ¬ sub.lifetime - (k + 1) = 0 by omega,
        Nat.sub_sub]
    · by_cases hk' : k < sub.lifetime
      · simp [h0, hk, hk', show sub.lifetime - k - 1 = 0 by omega,
          show 0 < sub.lifetime - k by omega]
      · simp [h0, hk, hk']

/-- `k` lifetime passes take `k` from every positive lifetime. -/
theorem covSubscriptions_iterate_updateLifetimes (k : Nat) (s : BacnetServer) :
    (bacnetCovUpdateLifetimes^[k] s).covSubscriptions =
      s.covSubscriptions.filterMap (tickTimes k) := by
  induction k with
  | zero =>
    rw [Function.iterate_zero, id_eq, List.filterMap_congr fun sub _ => tickTimes_zero sub,
      List.filterMap_some]
  | succ k ih =>
    rw [Function.iterate_succ_apply', bacnetCovUpdateLifetimes]
    dsimp only
    rw [ih, List.filterMap_filterMap]
    exact List.filterMap_congr fun sub _ => tickTimes_succ k sub

/-- How many passes of the task loop find the clock moved on since the last update. -/
def clockAdvances (last : Int) : List Int → Nat
  | [] => 0
  | now :: rest => if now > last then clockAdvances now rest + 1 else clockAdvances last rest

theorem bacnetTaskThreadFunc_eq_iterate (s : BacnetServer) (start : Int) (readings : List Int) :
    (bacnetTaskThreadFunc s start readings).1 =
      bacnetCovUpdateLifetimes^[clockAdvances start readings] s := by
  induction readings generalizing s start with
  | nil => rfl
  | cons now rest ih =>
    unfold bacnetTaskThreadFunc at ih ⊢
    rw [List.foldl_cons, covCheckTick, clockAdvances]
    split_ifs with h
    · rw [ih, Function.iterate_succ_apply]
    · exact ih s start

/-- Over every sequence of clock readings of the server's task loop, each subscription's
remaining lifetime is its lifetime less the number of passes that saw the clock move on:
the seconds that passed in between do not count. -/
theorem lifetime_counts_passes_not_seconds (s : BacnetServer) (start : Int)
    (readings : List Int) :
    (bacnetTaskThreadFunc s start readings).1.covSubscriptions =
      s.covSubscriptions.filterMap (tickTimes (clockAdvances start readings)) := by
  rw [bacnetTaskThreadFunc_eq_iterate, covSubscriptions_iterate_updateLifetimes]

/-- A subscription of 10 s made at second 0; the loop stalls and next reads the clock at
second 5: 9 s remain, not 5. -/
theorem lifetime_after_stalled_pass :
    ((bacnetTaskThreadFunc (runOps (bacnetServerCreate ⟨1, [], [], [], 10, 10⟩)
      [.createObject 0 1 [] none none 95 ⟨0⟩ 0, .covSubscribe 0 1 7 [] false 10 0]) 0 [5]).1
        ).covSubscriptions.map CovSubscription.lifetime = [9] := by
  rw [lifetime_counts_passes_not_seconds]
  decide

/-- Two updates of 1.0 with increment 2.0 are each compared with the previous value and notify
nobody; a binary object going from inactive to active is not notified either. -/
theorem cov_notification_missed_against_delta_rule :
    let s : BacnetServer := runOps (bacnetServerCreate ⟨1, [], [], [], 10, 10⟩)
      [.createObject 0 1 [] none (some (.real ⟨0x41A00000⟩)) 95 ⟨0x40000000⟩ 0,
        .covSubscribe 0 1 7 [] false 300 0,
        .updateValue 0 1 (.real ⟨0x41A80000⟩) true 1,
        .updateValue 0 1 (.real ⟨0x41B00000⟩) true 2]
    let b : BacnetServer := runOps (bacnetServerCreate ⟨1, [], [], [], 10, 10⟩)
      [.createObject 3 1 [] none (some (.boolean false)) 95 ⟨0x40000000⟩ 0,
        .covSubscribe 3 1 7 [] false 300 0,
        .updateValue 3 1 (.boolean true) true 1]
    (s.outbox = [] ∧ ∃ obj, findObject s 0 1 = some obj ∧
      valuesDifferByIncrement obj.presentValue obj.lastCovValue obj.covIncrement = true) ∧
    (b.outbox = [] ∧ ∃ obj, findObject b 3 1 = some obj ∧
      obj.presentValue ≠ obj.lastCovValue) := by
  decide

end BacnetEventServer
