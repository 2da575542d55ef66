import BacnetEventServer.Server
import BacnetEventServer.Logging

namespace BacnetEventServer

/-- `MAX_HEALTH_CHECKS`. -/
def maxHealthChecks : Nat := 16

/-- `health_status_t`. -/
inductive HealthStatus
  | up
  | down
  | degraded
  | unknown
  deriving DecidableEq, Repr

/-- `health_status_string`; a value outside the enumeration prints as `UNKNOWN` too. -/
def healthStatusString : HealthStatus → CStr
  | .up => lit "UP"
  | .down => lit "DOWN"
  | .degraded => lit "DEGRADED"
  | .unknown => lit "UNKNOWN"

/-- The fields of a `registered_check_t` that `handle_health` reads: the name, whether
`check_fn` is set, and the status and message of the last run. -/
structure RegisteredCheck where
  name : CStr
  hasCheckFn : Bool
  lastStatus : HealthStatus
  lastMessage : CStr
  deriving DecidableEq, Repr

/-- `health_api_register_check`: `-1` once the table is full. -/
def healthApiRegisterCheck (checks : List RegisteredCheck) (name : CStr) (hasCheckFn : Bool) :
    List RegisteredCheck × Int :=
  if checks.length ≥ maxHealthChecks then (checks, -1)
  else (checks ++ [⟨strncpy 63 name, hasCheckFn, .unknown, []⟩], 0)

/-- The first loop of `handle_health`, from the `i`-th check on. A check with a function is
run: `run i` is the status it returns and the text it writes into the 256 bytes of
`last_message`. `all_healthy` falls with the first status that is not `UP`. -/
def runHealthChecks (run : Nat → HealthStatus × CStr) :
    Nat → List RegisteredCheck → List RegisteredCheck × Bool
  | _, [] => ([], true)
  | i, check :: checks =>
    let rest := runHealthChecks run (i + 1) checks
    if check.hasCheckFn then
      ({ check with lastStatus := (run i).1, lastMessage := snprintfText 256 (run i).2 } ::
        rest.1, (run i).1 = .up && rest.2)
    else (check :: rest.1, rest.2)

/-- `"%s":{"status":"%s","message":"%s"}` for one check, an empty message shown as `OK`. -/
def componentText (check : RegisteredCheck) : CStr :=
  lit "\"" ++ check.name ++ lit "\":\x7b\"status\":\"" ++ healthStatusString check.lastStatus ++
    lit "\",\"message\":\"" ++ (if check.lastMessage = [] then lit "OK" else check.lastMessage) ++
    lit "\"\x7d"

/-- The second loop of `handle_health`, from the `i`-th check on: a comma before every check
but the first, then the check's piece. -/
def componentPieces : Nat → List RegisteredCheck → List CStr
  | _, [] => []
  | i, check :: checks =>
    (if i > 0 then [lit ","] else []) ++ componentText check :: componentPieces (i + 1) checks

/-- The texts of `handle_health`'s `snprintf` calls, in order. -/
def healthPieces (checks : List RegisteredCheck) (allHealthy : Bool) : List CStr :=
  (lit "\x7b\"status\":\"" ::
    ((if allHealthy then lit "UP" else lit "DOWN") ++ lit "\",\"components\":\x7b") ::
      componentPieces 0 checks) ++ [lit "\x7d\x7d"]

/-- `offset += snprintf(buf + offset, size - offset, ...)` for each text in turn: the size
argument of each call, the `size_t` that `size - offset` is converted to, and the offset
after the last. `snprintf` returns the length of the whole text, whether it fits or not. -/
def snprintfRun (size : Nat) : Int → List CStr → List Nat × Int
  | offset, [] => ([], offset)
  | offset, text :: texts =>
    let rest := snprintfRun size (offset + text.length) texts
    (sizeT (size - offset) :: rest.1, rest.2)

/-- `handle_health`: the checks after their run, and the size arguments and final offset of
its `snprintf` calls into the 4096-byte `response`. -/
def handleHealth (checks : List RegisteredCheck) (run : Nat → HealthStatus × CStr) :
    List RegisteredCheck × List Nat × Int :=
  let ran := runHealthChecks run 0 checks
  (ran.1, snprintfRun 4096 0 (healthPieces ran.1 ran.2))

/-- The calls that change the table: a registration, and a `GET /health` whose checks answer
as `run` says. -/
inductive HealthOp
  | register (name : CStr) (hasCheckFn : Bool)
  | health (run : Nat → HealthStatus × CStr)

def healthStep (checks : List RegisteredCheck) : HealthOp → List RegisteredCheck
  | .register name hasCheckFn => (healthApiRegisterCheck checks name hasCheckFn).1
  | .health run => (handleHealth checks run).1

/-- The table after the calls, from the empty one `health_api_init` leaves. -/
def healthRun (ops : List HealthOp) : List RegisteredCheck := ops.foldl healthStep []

/-- What every reachable table keeps: at most `MAX_HEALTH_CHECKS` checks, each name within 63
bytes and each message within 255. -/
structure HealthTableOk (checks : List RegisteredCheck) : Prop where
  length : checks.length ≤ maxHealthChecks
  names : ∀ c ∈ checks, c.name.length ≤ 63
  messages : ∀ c ∈ checks, c.lastMessage.length ≤ 255

section Run

variable {run : Nat → HealthStatus × CStr}

theorem length_runHealthChecks (i : Nat) (checks : List RegisteredCheck) :
    (runHealthChecks run i checks).1.length = checks.length := by
  induction checks generalizing i with
  | nil => rfl
  | cons c cs ih => unfold runHealthChecks; split_ifs <;> simp [ih]

/-- A check after the run keeps its name and function, and a message of its own. -/
theorem mem_runHealthChecks {i : Nat} {checks : List RegisteredCheck} {c' : RegisteredCheck}
    (h : c' ∈ (runHealthChecks run i checks).1) :
    ∃ c ∈ checks, c'.name = c.name ∧ c'.hasCheckFn = c.hasCheckFn ∧
      (c.hasCheckFn = true → ∃ j, c'.lastMessage = snprintfText 256 (run j).2) ∧
      (c.hasCheckFn = false → c'.lastMessage = c.lastMessage) := by
  induction checks generalizing i with
  | nil => simp [runHealthChecks] at h
  | cons c cs ih =>
    unfold runHealthChecks at h
    split_ifs at h with hfn
    · rcases List.mem_cons.mp h with rfl | h
      · exact ⟨c, List.mem_cons_self _ _, rfl, rfl, fun _ => ⟨i, rfl⟩, by simp [hfn]⟩
      · obtain ⟨d, hd, hd'⟩ := ih h
        exact ⟨d, List.mem_cons_of_mem _ hd, hd'⟩
    · rcases List.mem_cons.mp h with rfl | h
      · exact ⟨c', List.mem_cons_self _ _, rfl, rfl, by simp [hfn], fun _ => rfl⟩
      · obtain ⟨d, hd, hd'⟩ := ih h
        exact ⟨d, List.mem_cons_of_mem _ hd, hd'⟩

theorem runHealthChecks_ok {checks : List RegisteredCheck} (hok : HealthTableOk checks)
    (i : Nat) : HealthTableOk (runHealthChecks run i checks).1 where
  length := (length_runHealthChecks i checks).trans_le hok.length
  names c' h := by
    obtain ⟨c, hc, hname, -⟩ := mem_runHealthChecks h
    exact hname ▸ hok.names c hc
  messages c' h := by
    obtain ⟨c, hc, -, -, hrun, hkept⟩ := mem_runHealthChecks h
    cases hfn : c.hasCheckFn
    · exact (hkept hfn) ▸ hok.messages c hc
    · obtain ⟨j, hj⟩ := hrun hfn
      rw [hj, snprintfText]
      exact List.length_take_le _ _

end Run

theorem healthStep_ok {checks : List RegisteredCheck} (hok : HealthTableOk checks)
    (op : HealthOp) : HealthTableOk (healthStep checks op) := by
  cases op with
  | health run => exact runHealthChecks_ok hok 0
  | register name hasCheckFn =>
    simp only [healthStep, healthApiRegisterCheck]
    split_ifs with hfull
    · exact hok
    · refine ⟨by simp; omega, ?_, ?_⟩ <;>
        simp only [List.mem_append, List.mem_singleton] <;> rintro c (hc | rfl)
      · exact hok.names c hc
      · exact List.length_take_le _ _
      · exact hok.messages c hc
      · exact Nat.zero_le _

theorem healthRun_ok (ops : List HealthOp) : HealthTableOk (healthRun ops) := by
  suffices h : ∀ checks, HealthTableOk checks → HealthTableOk (ops.foldl healthStep checks) from
    h [] ⟨Nat.zero_le _, by simp, by simp⟩
  induction ops with
  | nil => exact fun _ h => h
  | cons op ops ih => exact fun checks h => ih _ (healthStep_ok h op)

section Offsets

theorem snprintfRun_append (size : Nat) (offset : Int) (texts more : List CStr) :
    (snprintfRun size offset (texts ++ more)).1 = (snprintfRun size offset texts).1 ++
      (snprintfRun size (offset + (texts.map List.length).sum) more).1 := by
  induction texts generalizing offset with
  | nil => simp [snprintfRun]
  | cons t ts ih =>
    rw [List.cons_append, snprintfRun, snprintfRun, ih, List.map_cons, List.sum_cons,
      Nat.cast_add, add_assoc, List.cons_append]

theorem sizeT_of_neg {i : Int} (hneg : i < 0) (hlow : -2 ^ 64 < i) :
    sizeT i = (2 ^ 64 + i).toNat := by
  unfold sizeT
  omega

/-- While the whole output fits, every size argument is the room left in the buffer. -/
theorem snprintfRun_sizes_le {size : Nat} {offset : Int} {texts : List CStr} (h0 : 0 ≤ offset)
    (hfit : offset + (texts.map List.length).sum ≤ size) :
    ∀ s ∈ (snprintfRun size offset texts).1, s ≤ size := by
  induction texts generalizing offset with
  | nil => simp [snprintfRun]
  | cons t ts ih =>
    simp only [List.map_cons, List.sum_cons, Nat.cast_add] at hfit
    simp only [snprintfRun, List.mem_cons]
    rintro s (rfl | hs)
    · unfold sizeT; omega
    · exact ih (by omega) (by omega) s hs

end Offsets

theorem length_healthStatusString (status : HealthStatus) :
    2 ≤ (healthStatusString status).length ∧ (healthStatusString status).length ≤ 8 := by
  cases status <;> decide

theorem length_componentText (check : RegisteredCheck) :
    (componentText check).length = 29 + check.name.length +
      (healthStatusString check.lastStatus).length +
      (if check.lastMessage = [] then 2 else check.lastMessage.length) := by
  have h1 : (lit "\"").length = 1 := by decide
  have h2 : (lit "\":\x7b\"status\":\"").length = 13 := by decide
  have h3 : (lit "\",\"message\":\"").length = 13 := by decide
  have h4 : (lit "\"\x7d").length = 2 := by decide
  have hok : (lit "OK").length = 2 := by decide
  unfold componentText
  split_ifs <;> simp only [List.length_append, h1, h2, h3, h4, hok] <;> omega

theorem sum_componentPieces (i : Nat) (checks : List RegisteredCheck) :
    ((componentPieces i checks).map List.length).sum =
      (checks.map fun c => (componentText c).length).sum +
        (if i = 0 then checks.length - 1 else checks.length) := by
  have hcomma : (lit ",").length = 1 := by decide
  induction checks generalizing i with
  | nil => simp [componentPieces]
  | cons c cs ih =>
    simp only [componentPieces, List.map_append, List.sum_append, List.map_cons, List.sum_cons,
      ih, List.length_cons, add_eq_zero, one_ne_zero, and_false, if_false]
    split_ifs <;> simp_all <;> omega

/-- The length of everything `handle_health` prints before the closing `}}`. -/
theorem sum_healthPieces_open (checks : List RegisteredCheck) (allHealthy : Bool) :
    ((lit "\x7b\"status\":\"" :: ((if allHealthy then lit "UP" else lit "DOWN") ++
        lit "\",\"components\":\x7b") :: componentPieces 0 checks).map List.length).sum =
      11 + (if allHealthy then 18 else 20) +
        ((checks.map fun c => (componentText c).length).sum + (checks.length - 1)) := by
  have hheader : (lit "\x7b\"status\":\"").length = 11 := by decide
  have hstatus : ((if allHealthy then lit "UP" else lit "DOWN") ++
      lit "\",\"components\":\x7b").length = if allHealthy then 18 else 20 := by
    split_ifs <;> decide
  simp only [List.map_cons, List.sum_cons, hheader, hstatus, sum_componentPieces, if_true]
  omega

/-- The size argument of the closing `}}`: the room left after everything printed before. -/
theorem handleHealth_last_size (checks : List RegisteredCheck) (run : Nat → HealthStatus × CStr) :
    let ran : List RegisteredCheck × Bool := runHealthChecks run 0 checks
    sizeT (4096 - (11 + (if ran.2 then 18 else 20) +
      ((ran.1.map fun c => (componentText c).length).sum + (ran.1.length - 1)) : Nat)) ∈
        (handleHealth checks run).2.1 := by
  intro ran
  simp only [handleHealth, healthPieces, snprintfRun_append]
  refine List.mem_append_right _ ?_
  rw [sum_healthPieces_open, Int.zero_add]
  exact List.mem_cons_self _ _

theorem length_componentText_le {checks : List RegisteredCheck} (hok : HealthTableOk checks) :
    ∀ c ∈ checks, (componentText c).length ≤ 355 := fun c hc => by
  have hname := hok.names c hc
  have hmessage := hok.messages c hc
  have hstatus := (length_healthStatusString c.lastStatus).2
  rw [length_componentText]
  split_ifs <;> omega

theorem sum_componentText_le {checks : List RegisteredCheck} (hok : HealthTableOk checks) :
    (checks.map fun c => (componentText c).length).sum ≤ checks.length * 355 := by
  simpa using List.sum_le_card_nsmul _ 355 (List.forall_mem_map.mpr (length_componentText_le hok))

/-- A check with a full name and a full message prints at least 349 bytes. -/
theorem length_componentText_ge {c : RegisteredCheck} (hname : c.name.length = 63)
    (hmessage : c.lastMessage.length = 255) : 349 ≤ (componentText c).length := by
  have hstatus := (length_healthStatusString c.lastStatus).1
  rw [length_componentText, hname, hmessage, if_neg fun h => by simp [h] at hmessage]
  omega

/-- Up to eleven checks, every size argument is the room left in the buffer. -/
theorem handleHealth_sizes_le (ops : List HealthOp) (run : Nat → HealthStatus × CStr)
    (hcount : (healthRun ops).length ≤ 11) :
    ∀ size ∈ (handleHealth (healthRun ops) run).2.1, size ≤ 4096 := by
  have hok : HealthTableOk (runHealthChecks run 0 (healthRun ops)).1 :=
    runHealthChecks_ok (healthRun_ok ops) 0
  have hlen : (runHealthChecks run 0 (healthRun ops)).1.length = (healthRun ops).length :=
    length_runHealthChecks 0 _
  have hsum := sum_componentText_le hok
  have hclose : (lit "\x7d\x7d").length = 2 := by decide
  apply snprintfRun_sizes_le le_rfl
  rw [healthPieces, List.map_append, List.sum_append, sum_healthPieces_open]
  simp only [List.map_cons, List.map_nil, List.sum_cons, List.sum_nil, hclose]
  split_ifs <;> omega

/-- From twelve checks with full names whose runs write full messages, `handle_health`
passes the end of its buffer and hands `snprintf` a size that has wrapped around. -/
theorem health_size_argument_wraps (ops : List HealthOp) (run : Nat → HealthStatus × CStr)
    (hcount : 12 ≤ (healthRun ops).length)
    (hchecks : ∀ c ∈ healthRun ops, c.hasCheckFn = true ∧ c.name.length = 63)
    (hmessages : ∀ i, 255 ≤ (run i).2.length) :
    ∃ size ∈ (handleHealth (healthRun ops) run).2.1, 2 ^ 64 - 4096 < size := by
  have hok : HealthTableOk (runHealthChecks run 0 (healthRun ops)).1 :=
    runHealthChecks_ok (healthRun_ok ops) 0
  have hlen : (runHealthChecks run 0 (healthRun ops)).1.length = (healthRun ops).length :=
    length_runHealthChecks 0 _
  have hmax := (healthRun_ok ops).length
  have hfull : ∀ c ∈ (runHealthChecks run 0 (healthRun ops)).1,
      349 ≤ (componentText c).length := fun c hc => by
    obtain ⟨d, hd, hname, -, hrun, -⟩ := mem_runHealthChecks hc
    obtain ⟨j, hj⟩ := hrun (hchecks d hd).1
    refine length_componentText_ge (hname ▸ (hchecks d hd).2) ?_
    rw [hj, snprintfText, List.length_take]
    exact Nat.min_eq_left (hmessages j)
  have hlow := List.card_nsmul_le_sum _ 349 (List.forall_mem_map.mpr hfull)
  have hhigh := sum_componentText_le hok
  simp only [List.length_map, smul_eq_mul] at hlow
  refine ⟨_, handleHealth_last_size (healthRun ops) run, ?_⟩
  unfold maxHealthChecks at hmax
  rw [sizeT_of_neg] <;> split_ifs <;> omega

/-- Twelve checks registered with full names, each answering `DEGRADED` with a full message:
the size argument of the closing `snprintf` wraps around. -/
theorem twelve_full_checks_wrap_size :
    let ops : List HealthOp := List.replicate 12 (.register (List.replicate 63 99) true)
    let run : Nat → HealthStatus × CStr := fun _ => (.degraded, List.replicate 255 109)
    12 ≤ (healthRun ops).length ∧
      (∀ c ∈ healthRun ops, c.hasCheckFn = true ∧ c.name.length = 63) ∧
      ∃ size ∈ (handleHealth (healthRun ops) run).2.1, 2 ^ 64 - 4096 < size := by
  intro ops run
  have hcount : 12 ≤ (healthRun ops).length := by decide
  have hchecks : ∀ c ∈ healthRun ops, c.hasCheckFn = true ∧ c.name.length = 63 := by decide
  exact ⟨hcount, hchecks, health_size_argument_wraps ops run hcount hchecks
    fun _ => (List.length_replicate 255 109).ge⟩

end BacnetEventServer
