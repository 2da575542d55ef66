import BacnetEventServer.ConnectionString

namespace BacnetEventServer

/-- A call of the client: `kurrentdb_client_connect` with its request answered `ok`
(`CURLE_OK` and HTTP 200) or not, and `kurrentdb_client_disconnect`. -/
inductive StatusCall
  | connect (ok : Bool)
  | disconnect
  deriving DecidableEq, Repr

/-- A call's locked section on the flag: the flag after it and the status its callback will
report, if it makes one. -/
def lockedSection (connected : Bool) : StatusCall → Bool × Option Bool
  | .connect ok => (ok, if ok != connected then some ok else none)
  | .disconnect => (false, some false)

/-- A call run whole: the flag and the statuses reported so far. -/
def atomicStep (s : Bool × List Bool) (call : StatusCall) : Bool × List Bool :=
  ((lockedSection s.1 call).1, s.2 ++ (lockedSection s.1 call).2.toList)

def atomicRun (s : Bool × List Bool) (calls : List StatusCall) : Bool × List Bool :=
  calls.foldl atomicStep s

/-- The last status reported, or `initial` before any. -/
def lastStatus (initial : Bool) (reports : List Bool) : Bool := reports.getLast?.getD initial

theorem lastStatus_append_single (initial b : Bool) (reports : List Bool) :
    lastStatus initial (reports ++ [b]) = b := by
  simp [lastStatus]

theorem atomicStep_lastStatus {initial : Bool} {s : Bool × List Bool}
    (h : lastStatus initial s.2 = s.1) (call : StatusCall) :
    lastStatus initial (atomicStep s call).2 = (atomicStep s call).1 := by
  cases call with
  | connect ok =>
    by_cases hok : ok = s.1
    · simpa [atomicStep, lockedSection, hok] using h
    · simp [atomicStep, lockedSection, hok, lastStatus_append_single]
  | disconnect => simp [atomicStep, lockedSection, lastStatus_append_single]

/-- Calls one after another end with the last status reported equal to the flag. -/
theorem atomicRun_lastStatus (connected : Bool) (calls : List StatusCall) :
    lastStatus connected (atomicRun (connected, []) calls).2 = (atomicRun (connected, []) calls).1 := by
  suffices ∀ s : Bool × List Bool, lastStatus connected s.2 = s.1 →
      lastStatus connected (atomicRun s calls).2 = (atomicRun s calls).1 from this _ rfl
  induction calls with
  | nil => exact fun _ h => h
  | cons call calls ih => exact fun s h => ih _ (atomicStep_lastStatus h call)

/-- A step of a thread: the locked section of its call, or the callback after the unlock. -/
inductive StatusStep
  | lock (thread : Nat) (call : StatusCall)
  | notify (thread : Nat)
  deriving DecidableEq, Repr

/-- The client with the statuses between a locked section and its callback, by thread, and
the statuses delivered to `on_connection_status` in order. -/
structure StatusSystem where
  client : KurrentdbClient
  pending : List (Nat × Bool)
  delivered : List Bool

/-- The first status pending for `thread`, and the others. -/
def takePending (thread : Nat) : List (Nat × Bool) → Option (Bool × List (Nat × Bool))
  | [] => none
  | n :: rest =>
    if n.1 = thread then some (n.2, rest) else (takePending thread rest).map fun r => (r.1, n :: r.2)

/-- One step: a locked section sets the flag and leaves its status pending; a callback
delivers the thread's first pending status, and does nothing when it has none. -/
def statusStep (s : StatusSystem) : StatusStep → StatusSystem
  | .lock thread call =>
    let r := lockedSection s.client.connected call
    { s with client := { s.client with connected := r.1 },
             pending := s.pending ++ (r.2.map (thread, ·)).toList }
  | .notify thread =>
    match takePending thread s.pending with
    | some r => { s with pending := r.2, delivered := s.delivered ++ [r.1] }
    | none => s

theorem takePending_perm {thread : Nat} {pending rest : List (Nat × Bool)} {b : Bool}
    (h : takePending thread pending = some (b, rest)) :
    List.Perm (pending.map (·.2)) (b :: rest.map (·.2)) := by
  induction pending generalizing rest with
  | nil => cases h
  | cons n pending ih =>
    by_cases hn : n.1 = thread
    · simp only [takePending, hn, if_true, Option.some.injEq, Prod.mk.injEq] at h
      obtain ⟨rfl, rfl⟩ := h
      rfl
    · simp only [takePending, hn, if_false, Option.map_eq_some', Prod.mk.injEq] at h
      obtain ⟨r, hr, rfl, rfl⟩ := h
      exact ((ih hr).cons n.2).trans (List.Perm.swap _ _ _)

def statusRun (s : StatusSystem) (steps : List StatusStep) : StatusSystem :=
  steps.foldl statusStep s

/-- The calls of a schedule in the order of their locked sections. -/
def lockedCalls (steps : List StatusStep) : List StatusCall :=
  steps.filterMap fun
    | .lock _ call => some call
    | .notify _ => none

/-- The interleaved system against the calls run whole: the same flag, and the statuses
delivered or pending are those reported, in some order. -/
def StatusSystem.Refines (s : StatusSystem) (a : Bool × List Bool) : Prop :=
  s.client.connected = a.1 ∧ List.Perm (s.delivered ++ s.pending.map (·.2)) a.2

theorem statusStep_lock_refines {s : StatusSystem} {a : Bool × List Bool} (h : s.Refines a)
    (thread : Nat) (call : StatusCall) :
    (statusStep s (.lock thread call)).Refines (atomicStep a call) := by
  obtain ⟨hflag, hperm⟩ := h
  refine ⟨by simp [statusStep, atomicStep, hflag], ?_⟩
  have hpending : ∀ o : Option Bool, (o.map (thread, ·)).toList.map (·.2) = o.toList := by
    intro o; cases o <;> rfl
  simpa [statusStep, atomicStep, hflag, hpending, ← List.append_assoc] using
    hperm.append_right (lockedSection a.1 call).2.toList

theorem statusStep_notify_refines {s : StatusSystem} {a : Bool × List Bool} (h : s.Refines a)
    (thread : Nat) : (statusStep s (.notify thread)).Refines a := by
  obtain ⟨hflag, hperm⟩ := h
  cases htake : takePending thread s.pending with
  | none => simpa [statusStep, htake] using And.intro hflag hperm
  | some r =>
    refine ⟨by simpa [statusStep, htake] using hflag, ?_⟩
    simp only [statusStep, htake, List.append_assoc, List.singleton_append]
    exact ((takePending_perm htake).append_left s.delivered).symm.trans hperm

/-- Every interleaving refines the calls run whole in the order of their locked sections. -/
theorem statusRun_refines {s : StatusSystem} {a : Bool × List Bool} (h : s.Refines a)
    (steps : List StatusStep) : (statusRun s steps).Refines (atomicRun a (lockedCalls steps)) := by
  induction steps generalizing s a with
  | nil => exact h
  | cons step steps ih =>
    cases step with
    | lock thread call => exact ih (statusStep_lock_refines h thread call)
    | notify thread => exact ih (statusStep_notify_refines h thread)

/-- From a client with nothing pending or delivered, every interleaving refines the calls run
whole in the order of their locked sections. -/
theorem statusRun_refines_lock_order (client : KurrentdbClient) (steps : List StatusStep) :
    (statusRun ⟨client, [], []⟩ steps).Refines (atomicRun (client.connected, []) (lockedCalls steps)) :=
  statusRun_refines ⟨rfl, List.Perm.refl _⟩ steps

/-- Each call's callback right after its locked section, in the same thread. -/
def sequentialSteps (calls : List (Nat × StatusCall)) : List StatusStep :=
  calls.flatMap fun c => [.lock c.1 c.2, .notify c.1]

theorem lockedCalls_sequentialSteps (calls : List (Nat × StatusCall)) :
    lockedCalls (sequentialSteps calls) = calls.map (·.2) := by
  induction calls with
  | nil => rfl
  | cons c calls ih =>
    simpa [sequentialSteps, lockedCalls] using ih

theorem statusStep_sequential {s : StatusSystem} (hp : s.pending = []) (c : Nat × StatusCall) :
    statusRun s [.lock c.1 c.2, .notify c.1] =
      { s with client := { s.client with connected := (lockedSection s.client.connected c.2).1 },
               delivered := s.delivered ++ (lockedSection s.client.connected c.2).2.toList } := by
  cases hr : (lockedSection s.client.connected c.2).2 <;>
    simp [statusRun, statusStep, takePending, hp, hr]

/-- Calls that do not overlap deliver their statuses in order and leave none pending. -/
theorem statusRun_sequential {s : StatusSystem} (hp : s.pending = [])
    (calls : List (Nat × StatusCall)) :
    (statusRun s (sequentialSteps calls)).pending = [] ∧
      ((statusRun s (sequentialSteps calls)).client.connected,
        (statusRun s (sequentialSteps calls)).delivered) =
        atomicRun (s.client.connected, s.delivered) (calls.map (·.2)) := by
  induction calls generalizing s with
  | nil => exact ⟨hp, rfl⟩
  | cons c calls ih =>
    have hstep := statusStep_sequential hp c
    have hrun : statusRun s (sequentialSteps (c :: calls)) =
        statusRun (statusRun s [.lock c.1 c.2, .notify c.1]) (sequentialSteps calls) := by
      simp [statusRun, sequentialSteps, List.foldl_append]
    rw [hrun, hstep]
    exact ih hp

/-- When no two calls overlap, the last status delivered, or the flag the client started with
when none was, is the flag. -/
theorem sequential_last_delivered_is_flag (client : KurrentdbClient)
    (calls : List (Nat × StatusCall)) :
    lastStatus client.connected (statusRun ⟨client, [], []⟩ (sequentialSteps calls)).delivered =
      (statusRun ⟨client, [], []⟩ (sequentialSteps calls)).client.connected := by
  have h := (statusRun_sequential (s := ⟨client, [], []⟩) rfl calls).2
  simp only [Prod.ext_iff] at h
  rw [h.1, h.2]
  exact atomicRun_lastStatus client.connected _

theorem takePending_append_self {thread : Nat} {pending : List (Nat × Bool)}
    (h : ∀ p ∈ pending, p.1 ≠ thread) (b : Bool) :
    takePending thread (pending ++ [(thread, b)]) = some (b, pending) := by
  induction pending with
  | nil => simp [takePending]
  | cons n pending ih =>
    simp [takePending, h n (List.mem_cons_self _ _),
      ih fun p hp => h p (List.mem_cons_of_mem _ hp)]

theorem takePending_of_forall_ne {thread : Nat} {l : List (Nat × Bool)}
    (h : ∀ p ∈ l, p.1 ≠ thread) : takePending thread l = none := by
  induction l with
  | nil => rfl
  | cons n l ih =>
    simp [takePending, h n (List.mem_cons_self _ _), ih fun p hp => h p (List.mem_cons_of_mem _ hp)]

theorem takePending_append_of_ne {thread : Nat} {l : List (Nat × Bool)}
    (hl : ∀ p ∈ l, p.1 ≠ thread) (pending : List (Nat × Bool)) :
    (takePending thread (pending ++ l)).map (·.1) = (takePending thread pending).map (·.1) := by
  induction pending with
  | nil => simp [takePending_of_forall_ne hl, takePending]
  | cons n pending ih =>
    by_cases hn : n.1 = thread <;> simp [takePending, hn, ih, Function.comp_def]

theorem takePending_rest_of_ne {thread other : Nat} (hne : other ≠ thread)
    {pending rest : List (Nat × Bool)} {b : Bool} (h : takePending other pending = some (b, rest)) :
    (takePending thread rest).map (·.1) = (takePending thread pending).map (·.1) := by
  induction pending generalizing rest with
  | nil => cases h
  | cons n pending ih =>
    by_cases hn : n.1 = other
    · simp only [takePending, hn, if_true, Option.some.injEq, Prod.mk.injEq] at h
      obtain ⟨rfl, rfl⟩ := h
      simp [takePending, hn, hne, Function.comp_def]
    · simp only [takePending, hn, if_false, Option.map_eq_some', Prod.mk.injEq] at h
      obtain ⟨r, hr, rfl, rfl⟩ := h
      by_cases ht : n.1 = thread <;> simp [takePending, ht, ih hr, Function.comp_def]

theorem statusStep_notify_of_takePending {s : StatusSystem} {thread : Nat} {b : Bool}
    {rest : List (Nat × Bool)} (h : takePending thread s.pending = some (b, rest)) :
    statusStep s (.notify thread) = { s with pending := rest, delivered := s.delivered ++ [b] } := by
  simp only [statusStep, h]

/-- The thread a step belongs to. -/
def StatusStep.thread : StatusStep → Nat
  | .lock thread _ => thread
  | .notify thread => thread

theorem statusStep_takePending_of_ne {s : StatusSystem} {thread : Nat} {step : StatusStep}
    (h : step.thread ≠ thread) :
    (takePending thread (statusStep s step).pending).map (·.1) =
      (takePending thread s.pending).map (·.1) := by
  cases step with
  | lock other call =>
    refine takePending_append_of_ne (fun p hp => ?_) s.pending
    cases hr : (lockedSection s.client.connected call).2 <;> simp only [hr, Option.map_none',
      Option.map_some', Option.toList_none, Option.toList_some, List.not_mem_nil,
      List.mem_singleton] at hp
    exact hp ▸ h
  | notify other =>
    cases htake : takePending other s.pending with
    | none => simp only [statusStep, htake]
    | some r =>
      simp only [statusStep, htake]
      exact takePending_rest_of_ne h htake

theorem statusRun_takePending_of_ne {thread : Nat} {steps : List StatusStep}
    (h : ∀ step ∈ steps, step.thread ≠ thread) (s : StatusSystem) :
    (takePending thread (statusRun s steps).pending).map (·.1) =
      (takePending thread s.pending).map (·.1) := by
  induction steps generalizing s with
  | nil => rfl
  | cons step steps ih =>
    exact (ih (fun st hst => h st (List.mem_cons_of_mem _ hst)) _).trans
      (statusStep_takePending_of_ne (h step (List.mem_cons_self _ _)))

/-- In every interleaving a callback delivers the status its own locked section reported,
whatever the other threads did to the flag in between: a connect that changed the flag,
called back after other calls set it back, delivers last a status the flag no longer has. -/
theorem overlapping_connects_deliver_stale_status {s : StatusSystem} {thread : Nat} {ok : Bool}
    (hs : ∀ p ∈ s.pending, p.1 ≠ thread) (hflip : ok ≠ s.client.connected)
    (between : List StatusStep) (hbetween : ∀ step ∈ between, step.thread ≠ thread)
    (hback : (statusRun s (.lock thread (.connect ok) :: between)).client.connected =
      s.client.connected) :
    let after := statusRun s (.lock thread (.connect ok) :: between ++ [.notify thread])
    after.delivered.getLast? = some ok ∧ after.client.connected = s.client.connected := by
  have hlocked : (statusStep s (.lock thread (.connect ok))).pending = s.pending ++ [(thread, ok)] := by
    simp [statusStep, lockedSection, hflip]
  have hfirst := statusRun_takePending_of_ne hbetween (statusStep s (.lock thread (.connect ok)))
  rw [hlocked, takePending_append_self hs ok] at hfirst
  obtain ⟨⟨b, rest⟩, htake, hb⟩ := Option.map_eq_some'.mp hfirst
  dsimp only at hb
  subst hb
  intro after
  have hafter : after = statusStep (statusRun (statusStep s (.lock thread (.connect b))) between)
      (.notify thread) := by
    simp only [after, statusRun, List.cons_append, List.foldl_cons, List.foldl_append,
      List.foldl_nil]
  rw [hafter, statusStep_notify_of_takePending htake]
  exact ⟨by simp, hback⟩

/-- Two poll threads connect a disconnected client: thread 1's request succeeds and sets the
flag, thread 2's fails and clears it, and thread 2 calls back first. -/
theorem connects_on_two_poll_threads :
    let s : StatusSystem := ⟨⟨⟨[], [], false, [], []⟩, [], 8, true, false⟩, [], []⟩
    let between : List StatusStep := [.lock 2 (.connect false), .notify 2]
    (∀ p ∈ s.pending, p.1 ≠ 1) ∧ true ≠ s.client.connected ∧
      (∀ step ∈ between, step.thread ≠ 1) ∧
      (statusRun s (.lock 1 (.connect true) :: between)).client.connected = s.client.connected ∧
      let after := statusRun s (.lock 1 (.connect true) :: between ++ [.notify 1])
      after.delivered.getLast? = some true ∧ after.client.connected = s.client.connected := by
  intro s between
  have hs : ∀ p ∈ s.pending, p.1 ≠ 1 := fun _ h => nomatch h
  have hbetween : ∀ step ∈ between, step.thread ≠ 1 := by decide
  have hback : (statusRun s (.lock 1 (.connect true) :: between)).client.connected =
      s.client.connected := rfl
  exact ⟨hs, by decide, hbetween, hback,
    overlapping_connects_deliver_stale_status hs (by decide) between hbetween hback⟩

end BacnetEventServer
