import BacnetEventServer.CacheBacking

namespace BacnetEventServer

namespace Redis

/-- A live context that answers every command with `OK`. -/
def AnswersOk (r : Redis) : Prop := r.connected = true ∧ ∀ rep ∈ r.replies, rep = .ok

variable {r : Redis}

theorem exec_of_answersOk (h : r.AnswersOk) (c : Command) :
    r.exec c =
      ({ r with replies := r.replies.tail, log := r.log ++ [(c, Reply.ok)] }.apply c, .ok) := by
  have hhead : r.replies.headD .ok = .ok := by
    cases hreplies : r.replies with
    | nil => rfl
    | cons rep _ => exact h.2 rep (by simp [hreplies])
  unfold exec
  rw [if_neg (by simp [h.1]), hhead]
  rfl

theorem AnswersOk.exec (h : r.AnswersOk) (c : Command) : (r.exec c).1.AnswersOk := by
  rw [exec_of_answersOk h]
  exact ⟨by simpa using h.1,
    fun rep hrep => h.2 rep (List.mem_of_mem_tail (by simpa using hrep))⟩

end Redis

section Loading

variable {r : Redis}

theorem redisCacheLoadObject_of_answersOk (hok : r.AnswersOk) {t : Int} {i : Nat} {j : Json}
    (hj : r.objects (t, i) = some (some j)) :
    (redisCacheLoadObject r t i).2 = some (objectOfJson t i j) ∧
      (redisCacheLoadObject r t i).1.AnswersOk := by
  have hget := Redis.exec_of_answersOk hok (.get (t, i))
  refine ⟨by simp [redisCacheLoadObject, redisCacheIsConnected, hok.1, hget, hj], ?_⟩
  rw [redisCacheLoadObject_fst, if_neg (by simp [redisCacheIsConnected, hok.1])]
  exact hok.exec _

theorem loadMembers_of_answersOk (hok : r.AnswersOk) (hblobs : BlobsNameKeys r)
    {ms : List ObjectKey} (hread : ∀ k ∈ ms, ∃ j, r.objects k = some (some j)) :
    (loadMembers objectTypeMax r ms).2.map (fun o => (o.objectType, o.objectInstance)) = ms := by
  induction ms generalizing r with
  | nil => rfl
  | cons m ms ih =>
    obtain ⟨t, i⟩ := m
    obtain ⟨j, hj⟩ := hread (t, i) (List.mem_cons_self _ _)
    obtain ⟨hload, hok'⟩ := redisCacheLoadObject_of_answersOk hok hj
    have hobjects := redisCacheLoadObject_objects r t i
    have hkey : ((objectOfJson t i j).objectType, (objectOfJson t i j).objectInstance) = (t, i) :=
      hblobs (t, i) j hj
    have hrest := ih hok' (fun k j' h => hblobs k j' (hobjects ▸ h))
      fun k hk => hobjects ▸ hread k (List.mem_cons_of_mem _ hk)
    simp only [loadMembers, true_or, if_true, hload, Option.toList_some, List.singleton_append,
      List.map_cons, hkey, hrest]

theorem redisCacheIterateObjects_of_answersOk (hok : r.AnswersOk) (hblobs : BlobsNameKeys r)
    (hread : ∀ k ∈ r.index, ∃ j, r.objects k = some (some j)) :
    ((redisCacheIterateObjects r objectTypeMax).2.getD []).map
      (fun o => (o.objectType, o.objectInstance)) = r.index := by
  have hmembers := Redis.exec_of_answersOk hok .smembers
  have hobjects : (r.exec .smembers).1.objects = r.objects := r.exec_objects rfl
  unfold redisCacheIterateObjects
  rw [if_neg (by simp [redisCacheIsConnected, hok.1])]
  dsimp only
  rw [if_neg (by simp [hmembers])]
  exact loadMembers_of_answersOk (hok.exec _) (fun k j h => hblobs k j (hobjects ▸ h))
    fun k hk => hobjects ▸ hread k hk

end Loading

section Callback

variable (now : Int)

/-- Below `max_objects`, the create-or-update serves the record's key. -/
theorem ServerApi.bacnetServerCreateObject_of_room {s : BacnetServer} (o : CachedObject)
    (hroom : s.objectCount < s.config.maxObjects) :
    (∀ k, k ∈ (ServerApi.bacnetServerCreateObject s o now).1.objects.map objectKey ↔
        k ∈ s.objects.map objectKey ∨ k = (o.objectType, o.objectInstance)) ∧
      (ServerApi.bacnetServerCreateObject s o now).1.objectCount ≤ s.objectCount + 1 ∧
      (ServerApi.bacnetServerCreateObject s o now).1.config = s.config := by
  unfold ServerApi.bacnetServerCreateObject
  split_ifs with hfound
  · refine ⟨fun k => ?_, Nat.le_succ _, rfl⟩
    rw [ServerApi.refreshServerObject,
      updateFirst_map (ServerApi.refreshObject o now) objectKey (fun _ => rfl)]
    exact ⟨.inl, fun hk => hk.elim id fun hk => hk ▸ findObject_isSome_iff.mp hfound⟩
  · dsimp only
    unfold BacnetEventServer.bacnetServerCreateObject
    rw [if_neg hfound, if_neg (Nat.not_le.mpr hroom)]
    refine ⟨fun k => ?_, le_rfl, rfl⟩
    rw [List.map_cons, List.mem_cons]
    exact or_comm

/-- Below `max_objects`, the callback serves the record's key and counts it. -/
theorem loadObjectCallback_of_room {acc : BacnetServer × Nat} (o : CachedObject)
    (hroom : acc.1.objectCount < acc.1.config.maxObjects) :
    (∀ k, k ∈ (loadObjectCallback now acc o).1.objects.map objectKey ↔
        k ∈ acc.1.objects.map objectKey ∨ k = (o.objectType, o.objectInstance)) ∧
      (loadObjectCallback now acc o).1.objectCount ≤ acc.1.objectCount + 1 ∧
      (loadObjectCallback now acc o).1.config = acc.1.config ∧
      (loadObjectCallback now acc o).2 = acc.2 + 1 :=
  have hserved := ServerApi.bacnetServerCreateObject_of_room now o hroom
  ⟨hserved.1, hserved.2.1, hserved.2.2,
    if_pos (ServerApi.bacnetServerCreateObject_eq_zero (.inr hroom))⟩

/-- Records that fit in `max_objects` are all served and counted. -/
theorem foldl_loadObjectCallback_of_room (os : List CachedObject) (acc : BacnetServer × Nat)
    (hroom : acc.1.objectCount + os.length ≤ acc.1.config.maxObjects) :
    (∀ k, k ∈ (os.foldl (loadObjectCallback now) acc).1.objects.map objectKey ↔
        k ∈ acc.1.objects.map objectKey ∨ k ∈ os.map fun o => (o.objectType, o.objectInstance)) ∧
      (os.foldl (loadObjectCallback now) acc).2 = acc.2 + os.length := by
  induction os generalizing acc with
  | nil => exact ⟨fun k => (or_iff_left (List.not_mem_nil k)).symm, rfl⟩
  | cons o os ih =>
    rw [List.length_cons] at hroom
    obtain ⟨hkeys, hcount, hconfig, hn⟩ := @loadObjectCallback_of_room now acc o (by omega)
    obtain ⟨hrest, hn'⟩ := ih (loadObjectCallback now acc o) (by rw [hconfig]; omega)
    refine ⟨fun k => ?_, ?_⟩
    · rw [List.foldl_cons, hrest, hkeys, List.map_cons, List.mem_cons, or_assoc]
    · rw [List.foldl_cons, hn', hn, List.length_cons]
      omega

end Callback

theorem blobsNameKeys_of_single {r : Redis} {k₀ : ObjectKey} {j₀ : Json}
    (hobjects : r.objects = fun k => if k = k₀ then some (some j₀) else none)
    (hname : ((objectOfJson k₀.1 k₀.2 j₀).objectType, (objectOfJson k₀.1 k₀.2 j₀).objectInstance) =
      k₀) :
    BlobsNameKeys r := by
  intro k j h
  rw [hobjects] at h
  dsimp only at h
  split_ifs at h with hk
  cases h
  subst hk
  exact hname

/-- Recovery from a Redis answering `OK` serves the index members and counts them. -/
theorem recoverFromCache_of_answersOk {redis : Redis} (hok : redis.AnswersOk)
    (hblobs : BlobsNameKeys redis) (hread : ∀ k ∈ redis.index, ∃ j, redis.objects k = some (some j))
    {config : BacnetServerConfig} (hroom : redis.index.length ≤ config.maxObjects)
    (subscriptions : List Subscription) (now : Int) :
    (∀ k, k ∈ (recoverFromCache ⟨redis, bacnetServerCreate config, subscriptions⟩ now).1.served ↔
        k ∈ redis.index) ∧
      (recoverFromCache ⟨redis, bacnetServerCreate config, subscriptions⟩ now).2 =
        redis.index.length := by
  have hloaded := redisCacheIterateObjects_of_answersOk hok hblobs hread
  have hlen : ((redisCacheIterateObjects redis objectTypeMax).2.getD []).length =
      redis.index.length := by
    rw [← hloaded, List.length_map]
  have hfold := foldl_loadObjectCallback_of_room now
    ((redisCacheIterateObjects redis objectTypeMax).2.getD []) (bacnetServerCreate config, 0)
    (by show 0 + _ ≤ config.maxObjects; omega)
  rw [hloaded] at hfold
  exact ⟨fun k => (hfold.1 k).trans (or_iff_right (List.not_mem_nil k)),
    hfold.2.trans (by rw [hlen, Nat.zero_add])⟩

/-- Recovered from such a Redis, the server serves exactly the members of the index, and
`recover_from_cache` returns (and prints) the number of records it loaded. -/
theorem recovery_serves_index {redis : Redis} (hok : redis.AnswersOk)
    (hblobs : BlobsNameKeys redis) (hread : ∀ k ∈ redis.index, ∃ j, redis.objects k = some (some j))
    {config : BacnetServerConfig} (hroom : redis.index.length ≤ config.maxObjects)
    (subscriptions : List Subscription) (now : Int) :
    (∀ k, k ∈ (recoverFromCache ⟨redis, bacnetServerCreate config, subscriptions⟩ now).1.served ↔
        k ∈ redis.index) ∧
      (recoverFromCache ⟨redis, bacnetServerCreate config, subscriptions⟩ now).2 =
        redis.index.length :=
  recoverFromCache_of_answersOk hok hblobs hread hroom subscriptions now

/-- One readable record in the index comes back as the one object of the server. -/
theorem recovery_of_one_record :
    let record : Json := .object [(lit "object_type", jsonInt 0), (lit "object_instance", jsonInt 1)]
    let redis : Redis := ⟨true, fun k => if k = (0, 1) then some (some record) else none, [(0, 1)],
      fun _ => none, none, [], []⟩
    (∀ k, k ∈ (recoverFromCache ⟨redis, bacnetServerCreate ⟨1, [], [], [], 10, 10⟩, []⟩ 0).1.served ↔
        k ∈ redis.index) ∧
      (recoverFromCache ⟨redis, bacnetServerCreate ⟨1, [], [], [], 10, 10⟩, []⟩ 0).2 =
        redis.index.length := by
  intro record redis
  have hok : redis.AnswersOk := ⟨rfl, fun _ h => nomatch h⟩
  have hnames : BlobsNameKeys redis := blobsNameKeys_of_single rfl (by decide)
  have hread : ∀ k ∈ redis.index, ∃ j, redis.objects k = some (some j) := by
    intro k hk
    rw [List.mem_singleton.mp hk]
    exact ⟨record, rfl⟩
  exact recovery_serves_index hok hnames hread (by decide) [] 0

end BacnetEventServer
