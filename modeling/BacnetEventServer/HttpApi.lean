import Mathlib.Data.List.DropRight
import BacnetEventServer.HealthApi
import BacnetEventServer.Timestamp
import BacnetEventServer.CacheKeys

namespace BacnetEventServer

/-- `%<width>s`: white space skipped, then at most `width` bytes up to the next white space;
an input failure when nothing is left. -/
def scanString (width : Nat) (s : CStr) : Option (CStr × CStr) :=
  let s := s.dropWhile isSpace
  let word := (s.takeWhile fun c => !isSpace c).take width
  if word = [] then none else some (word, s.drop word.length)

/-- `sscanf(buffer, "%15s %255s", method, path) == 2`, the blank between the directives
skipping white space. -/
def sscanfRequestLine (s : CStr) : Option (CStr × CStr) := do
  let (method, s) ← scanString 15 s
  let (path, _) ← scanString 255 (s.dropWhile isSpace)
  pure (method, path)

/-- The handlers `handle_request` routes to. -/
inductive Endpoint
  | health
  | healthLive
  | healthReady
  | metrics
  | status
  deriving DecidableEq, Repr

/-- What `handle_request` does with a connection: nothing, `send_text` of a status code and a
text, or a handler. -/
inductive RequestReply
  | noReply
  | text (statusCode : Nat) (body : CStr)
  | endpoint (e : Endpoint)
  deriving DecidableEq, Repr

/-- The `strcmp` chain of `handle_request`. -/
def routeRequest (path : CStr) : RequestReply :=
  if path = lit "/health" then .endpoint .health
  else if path = lit "/health/live" ∨ path = lit "/healthz" then .endpoint .healthLive
  else if path = lit "/health/ready" ∨ path = lit "/readyz" then .endpoint .healthReady
  else if path = lit "/metrics" then .endpoint .metrics
  else if path = lit "/status" then .endpoint .status
  else .text 404 (lit "Not Found")

/-- `handle_request` on the bytes `recv` returned; `bytes_read <= 0` is an empty read. -/
def handleRequest (received : CStr) : RequestReply :=
  if received = [] then .noReply
  else
    match sscanfRequestLine (cString received) with
    | none => .text 400 (lit "Bad Request")
    | some (method, path) =>
      if method = lit "GET" then routeRequest path else .text 405 (lit "Method Not Allowed")

/-- The first word of `s`, white space skipped, and the text after it. -/
def firstWord (s : CStr) : CStr × CStr :=
  let s := s.dropWhile isSpace
  (s.takeWhile fun c => !isSpace c, s.dropWhile fun c => !isSpace c)

/-- `handle_request` by the first two words of the request: 400 without a method and a path,
405 for a method other than `GET`, and the route of the path otherwise; a first word longer
than 15 bytes stands for both. -/
def requestReplyByWords (received : CStr) : RequestReply :=
  let (method, rest) := firstWord (cString received)
  let path := (firstWord rest).1
  if received = [] then .noReply
  else if method = [] ∨ (path = [] ∧ method.length ≤ 15) then .text 400 (lit "Bad Request")
  else if method = lit "GET" then routeRequest path
  else .text 405 (lit "Method Not Allowed")

theorem firstWord_dropWhile (s : CStr) : firstWord (s.dropWhile isSpace) = firstWord s := by
  simp only [firstWord, List.dropWhile_idempotent]

theorem firstWord_not_space {s : CStr} {c : UInt8} (hc : c ∈ (firstWord s).1) :
    isSpace c = false := by
  simpa using List.mem_takeWhile_imp hc

theorem firstWord_rest_head (s : CStr) : ∀ c ∈ (firstWord s).2.head?, isSpace c = true := by
  intro c hc
  have := List.head?_dropWhile_not (fun c => !isSpace c) (s.dropWhile isSpace)
  have hc' : (List.dropWhile (fun c => !isSpace c) (s.dropWhile isSpace)).head? = some c := hc
  rw [hc'] at this
  simpa using this

/-- A word followed by white space or nothing is the first word. -/
theorem firstWord_append {word rest : CStr} (hne : word ≠ [])
    (hword : ∀ c ∈ word, isSpace c = false) (hrest : ∀ c ∈ rest.head?, isSpace c = true) :
    firstWord (word ++ rest) = (word, rest) := by
  have hword' : ∀ c ∈ word, (fun c => !isSpace c) c = true := fun c hc => by simp [hword c hc]
  have hskip : (word ++ rest).dropWhile isSpace = word ++ rest := by
    obtain ⟨a, as, rfl⟩ := List.exists_cons_of_ne_nil hne
    exact List.dropWhile_cons_of_neg (by simp [hword a (List.mem_cons_self _ _)])
  have hstop : rest.takeWhile (fun c => !isSpace c) = [] ∧
      rest.dropWhile (fun c => !isSpace c) = rest := by
    cases rest with
    | nil => exact ⟨rfl, rfl⟩
    | cons d ds => simp [hrest d rfl]
  simp only [firstWord, hskip, List.takeWhile_append_of_pos hword',
    List.dropWhile_append_of_pos hword', hstop, List.append_nil]

/-- `%<width>s` takes the first `width` bytes of the first word. -/
theorem scanString_eq {width : Nat} (hwidth : 0 < width) (s : CStr) :
    scanString width s = if (firstWord s).1 = [] then none
      else some ((firstWord s).1.take width, (firstWord s).1.drop width ++ (firstWord s).2) := by
  have hsplit : s.dropWhile isSpace =
      (firstWord s).1.take width ++ ((firstWord s).1.drop width ++ (firstWord s).2) := by
    rw [← List.append_assoc, List.take_append_drop]
    exact (List.takeWhile_append_dropWhile _ _).symm
  have hnil : (firstWord s).1.take width = [] ↔ (firstWord s).1 = [] := by
    rw [List.take_eq_nil_iff, or_iff_right hwidth.ne']
  show (if (firstWord s).1.take width = [] then none
    else some ((firstWord s).1.take width,
      (s.dropWhile isSpace).drop ((firstWord s).1.take width).length)) = _
  rw [hsplit, List.drop_left]
  exact if_congr hnil rfl rfl

/-- A route is at most 13 bytes, so cutting a path to 255 bytes never changes where it goes. -/
theorem routeRequest_take (path : CStr) : routeRequest (path.take 255) = routeRequest path := by
  rcases Nat.lt_or_ge 255 path.length with hlong | hshort
  · have hlen : (path.take 255).length = 255 := List.length_take_of_le hlong.le
    have hnot : ∀ p : CStr, 255 ≤ p.length → routeRequest p = .text 404 (lit "Not Found") := by
      intro p hp
      have hne : ∀ route : CStr, route.length ≤ 13 → p ≠ route := fun _ hr he => by
        rw [he] at hp
        omega
      simp only [routeRequest, hne _ (by decide : (lit "/health").length ≤ 13),
        hne _ (by decide : (lit "/health/live").length ≤ 13),
        hne _ (by decide : (lit "/healthz").length ≤ 13),
        hne _ (by decide : (lit "/health/ready").length ≤ 13),
        hne _ (by decide : (lit "/readyz").length ≤ 13),
        hne _ (by decide : (lit "/metrics").length ≤ 13),
        hne _ (by decide : (lit "/status").length ≤ 13), or_self, if_false]
    rw [hnot _ hlen.ge, hnot _ hlong.le]
  · rw [List.take_of_length_le hshort]

theorem sscanfRequestLine_eq (s : CStr) :
    sscanfRequestLine s = (scanString 15 s).bind fun a =>
      (scanString 255 (a.2.dropWhile isSpace)).bind fun b => some (a.1, b.1) :=
  rfl

/-- `handle_request` answers by the first two words of the request, whatever their lengths:
the widths of `%15s` and `%255s` only make one word of more than 15 bytes a method and a
path. -/
theorem handleRequest_eq_byWords (received : CStr) :
    handleRequest received = requestReplyByWords received := by
  simp only [handleRequest, requestReplyByWords]
  by_cases hr : received = []
  · simp only [hr, if_true]
  rw [if_neg hr, if_neg hr, sscanfRequestLine_eq]
  generalize cString received = s
  have hget : (lit "GET").length = 3 := by decide
  rw [scanString_eq (by decide)]
  by_cases hw : (firstWord s).1 = []
  · simp [hw]
  rw [if_neg hw, Option.some_bind, scanString_eq (by decide)]
  rcases Nat.lt_or_ge 15 (firstWord s).1.length with hlong | hshort
  · -- the method is the first 15 bytes of the word and the path goes on inside it
    have hdrop : (firstWord s).1.drop 15 ≠ [] := by simpa using hlong
    have hwords : firstWord (((firstWord s).1.drop 15 ++ (firstWord s).2).dropWhile isSpace) =
        ((firstWord s).1.drop 15, (firstWord s).2) := by
      rw [firstWord_dropWhile]
      exact firstWord_append hdrop (fun c hc => firstWord_not_space (List.mem_of_mem_drop hc))
        (firstWord_rest_head s)
    have hmethod : (firstWord s).1.take 15 ≠ lit "GET" := fun he => by
      have := congrArg List.length he
      rw [List.length_take, hget] at this
      omega
    have hword : (firstWord s).1 ≠ lit "GET" := fun he => by
      rw [he, hget] at hlong
      omega
    simp only [hwords, if_neg hdrop, Option.some_bind, hmethod, hword, hw,
      Nat.not_le.mpr hlong, and_false, or_self, if_false]
  · -- the method is the whole word and the path the next one
    rw [List.take_of_length_le hshort, List.drop_eq_nil_of_le hshort, List.nil_append,
      firstWord_dropWhile]
    by_cases hp : (firstWord (firstWord s).2).1 = []
    · simp [hp, hshort]
    · simp only [hp, hw, if_false, Option.some_bind, false_and, or_self, routeRequest_take]

/-- One word of 16 bytes is answered 405, while a shorter one is a bad request. -/
example : handleRequest (lit "GETGETGETGETGETG") = .text 405 (lit "Method Not Allowed") ∧
    handleRequest (lit "GET") = .text 400 (lit "Bad Request") := by
  decide

/-- The loop of `handle_health_ready` from the `i`-th check on: `check_fn(user_data, NULL, 0)`
for each check with a function, `run i` being its status, up to the first that is not `UP`.
The indices of the checks run, and `ready`. -/
def readyChecks (run : Nat → HealthStatus) : Nat → List RegisteredCheck → List Nat × Bool
  | _, [] => ([], true)
  | i, check :: checks =>
    if check.hasCheckFn then
      if run i = .up then
        let rest := readyChecks run (i + 1) checks
        (i :: rest.1, rest.2)
      else ([i], false)
    else readyChecks run (i + 1) checks

/-- `handle_health_ready`: the checks it runs, and the status code and body of its
`send_json`. -/
def handleHealthReady (checks : List RegisteredCheck) (run : Nat → HealthStatus) :
    List Nat × Nat × CStr :=
  let ready := readyChecks run 0 checks
  (ready.1, if ready.2 then (200, lit "\x7b\"status\":\"UP\"\x7d")
    else (503, lit "\x7b\"status\":\"DOWN\"\x7d"))

/-- The status code of `handle_health`'s `send_json`. -/
def handleHealthStatusCode (checks : List RegisteredCheck) (run : Nat → HealthStatus × CStr) :
    Nat :=
  if (runHealthChecks run 0 checks).2 then 200 else 503

theorem readyChecks_ready (run : Nat → HealthStatus × CStr) (i : Nat)
    (checks : List RegisteredCheck) :
    (readyChecks (fun j => (run j).1) i checks).2 = (runHealthChecks run i checks).2 := by
  induction checks generalizing i with
  | nil => rfl
  | cons check checks ih =>
    simp only [readyChecks, runHealthChecks]
    by_cases hfn : check.hasCheckFn
    · by_cases hup : (run i).1 = .up
      · simp [hfn, hup, ih]
      · simp [hfn, hup]
    · simp [hfn, ih]

theorem forall_getElem?_cons {α : Type} {P : Nat → α → Prop} {a : α} {l : List α} :
    (∀ j c, (a :: l)[j]? = some c → P j c) ↔ P 0 a ∧ ∀ j c, l[j]? = some c → P (j + 1) c := by
  constructor
  · exact fun h => ⟨h 0 a List.getElem?_cons_zero,
      fun j c hc => h (j + 1) c (by rwa [List.getElem?_cons_succ])⟩
  · rintro ⟨h0, h⟩ (_ | j) c hc
    · rw [List.getElem?_cons_zero, Option.some.injEq] at hc
      exact hc ▸ h0
    · rw [List.getElem?_cons_succ] at hc
      exact h j c hc

/-- `all_healthy` stays set exactly when every check with a function is `UP`. -/
theorem runHealthChecks_healthy_iff (run : Nat → HealthStatus × CStr) (i : Nat)
    (checks : List RegisteredCheck) :
    (runHealthChecks run i checks).2 = true ↔
      ∀ j c, checks[j]? = some c → c.hasCheckFn = true → (run (i + j)).1 = .up := by
  induction checks generalizing i with
  | nil => simp [runHealthChecks]
  | cons check checks ih =>
    have hshift : ∀ j, i + 1 + j = i + (j + 1) := fun j => by omega
    rw [forall_getElem?_cons]
    unfold runHealthChecks
    split_ifs with hfn
    · simp only [Bool.and_eq_true, decide_eq_true_eq, ih, hshift, hfn, true_implies,
        Nat.add_zero]
    · simp only [ih, hshift, hfn, Bool.false_eq_true, false_implies, true_and]

/-- `GET /health/ready` answers 200 exactly when every check with a function returns `UP`,
and so with the status code `GET /health` gives for the same statuses. -/
theorem handleHealthReady_statusCode (checks : List RegisteredCheck)
    (run : Nat → HealthStatus × CStr) :
    ((handleHealthReady checks fun i => (run i).1).2.1 = 200 ↔
        ∀ j c, checks[j]? = some c → c.hasCheckFn = true → (run j).1 = .up) ∧
      (handleHealthReady checks fun i => (run i).1).2.1 = handleHealthStatusCode checks run := by
  have hcode : (handleHealthReady checks fun i => (run i).1).2.1 =
      handleHealthStatusCode checks run := by
    simp only [handleHealthReady, handleHealthStatusCode, readyChecks_ready]
    split <;> rfl
  refine ⟨?_, hcode⟩
  have hhealthy := runHealthChecks_healthy_iff run 0 checks
  simp only [Nat.zero_add] at hhealthy
  rw [hcode, handleHealthStatusCode, ← hhealthy]
  cases (runHealthChecks run 0 checks).2 <;> decide

/-- The reason phrase of `send_response`'s `switch`. -/
def statusText (statusCode : Nat) : CStr :=
  if statusCode = 200 then lit "OK"
  else if statusCode = 404 then lit "Not Found"
  else if statusCode = 500 then lit "Internal Server Error"
  else if statusCode = 503 then lit "Service Unavailable"
  else lit "Unknown"

/-- The header `send_response` prints with `snprintf` into its 512-byte buffer. -/
def responseHeader (statusCode : Nat) (contentType : CStr) (bodyLen : Nat) : CStr :=
  lit "HTTP/1.1 " ++ decimalText statusCode ++ lit " " ++ statusText statusCode ++
    lit "\r\nContent-Type: " ++ contentType ++ lit "\r\nContent-Length: " ++
    decimalText bodyLen ++ lit "\r\nConnection: close\r\n\r\n"

/-- `send_response`: `header_len` bytes of the header buffer, then the body when it is not
empty; `none` when `header_len` passes the 511 bytes `snprintf` wrote and `send` would read
past the buffer. -/
def sendResponse (statusCode : Nat) (contentType body : CStr) : Option CStr :=
  let header := responseHeader statusCode contentType body.length
  if header.length ≤ 511 then some (header ++ body) else none

/-- `send_json`. -/
def sendJson (statusCode : Nat) (json : CStr) : Option CStr :=
  sendResponse statusCode (lit "application/json") json

/-- `send_text`. -/
def sendText (statusCode : Nat) (text : CStr) : Option CStr :=
  sendResponse statusCode (lit "text/plain; charset=utf-8") text

theorem statusText_length_le (statusCode : Nat) : (statusText statusCode).length ≤ 21 := by
  unfold statusText
  split_ifs <;> decide

/-- The header of a three-digit code and a short content type fits in 151 bytes. -/
theorem responseHeader_length_le {statusCode : Nat} (hcode : statusCode < 1000)
    {contentType : CStr} (htype : contentType.length ≤ 40) {bodyLen : Nat}
    (hbody : bodyLen < 2 ^ 64) : (responseHeader statusCode contentType bodyLen).length ≤ 151 := by
  have hc := (decimalText_natCast statusCode).2.2.2 3 (by omega) (by omega)
  have hb := (decimalText_natCast bodyLen).2.2.2 20 (by omega) (by omega)
  have hs := statusText_length_le statusCode
  have hlits : (lit "HTTP/1.1 ").length = 9 ∧ (lit " ").length = 1 ∧
      (lit "\r\nContent-Type: ").length = 16 ∧ (lit "\r\nContent-Length: ").length = 18 ∧
      (lit "\r\nConnection: close\r\n\r\n").length = 23 := by decide
  simp only [responseHeader, List.length_append]
  omega

/-- `send_response` sends the whole header, with the body's length, and then the body. -/
theorem sendResponse_eq {statusCode : Nat} (hcode : statusCode < 1000) {contentType : CStr}
    (htype : contentType.length ≤ 40) {body : CStr} (hbody : body.length < 2 ^ 64) :
    sendResponse statusCode contentType body =
      some (responseHeader statusCode contentType body.length ++ body) := by
  have hfits := responseHeader_length_le hcode htype hbody
  simp only [sendResponse]
  rw [if_pos (by omega)]

/-- A registration, or a connection that `server_thread_fn` accepts: the bytes `recv` returns
and what the checks answer if `handle_health` runs them. -/
inductive ApiOp
  | register (name : CStr) (hasCheckFn : Bool)
  | request (received : CStr) (run : Nat → HealthStatus × CStr)

/-- The table after one call: `handle_health` is the only handler that writes it. -/
def apiStep (checks : List RegisteredCheck) : ApiOp → List RegisteredCheck
  | .register name hasCheckFn => (healthApiRegisterCheck checks name hasCheckFn).1
  | .request received run =>
    match handleRequest received with
    | .endpoint .health => (handleHealth checks run).1
    | _ => checks

/-- The table after the calls, from the empty one `health_api_init` leaves. -/
def apiRun (ops : List ApiOp) : List RegisteredCheck := ops.foldl apiStep []

/-- The call of the table model a call of the server is: a registration, a `GET /health`, or
none. -/
def ApiOp.healthOp : ApiOp → Option HealthOp
  | .register name hasCheckFn => some (.register name hasCheckFn)
  | .request received run =>
    if handleRequest received = .endpoint .health then some (.health run) else none

theorem apiStep_eq (checks : List RegisteredCheck) (op : ApiOp) :
    apiStep checks op = (op.healthOp.map (healthStep checks)).getD checks := by
  cases op with
  | register name hasCheckFn => rfl
  | request received run =>
    simp only [apiStep, ApiOp.healthOp]
    split <;> simp_all [healthStep]

theorem foldl_apiStep (ops : List ApiOp) (checks : List RegisteredCheck) :
    ops.foldl apiStep checks = (ops.filterMap ApiOp.healthOp).foldl healthStep checks := by
  induction ops generalizing checks with
  | nil => rfl
  | cons op ops ih =>
    rw [List.foldl_cons, List.filterMap_cons, apiStep_eq, ih]
    cases op.healthOp <;> rfl

/-- Only registrations and `GET /health` requests change the table, in their order. -/
theorem apiRun_eq_healthRun (ops : List ApiOp) :
    apiRun ops = healthRun (ops.filterMap ApiOp.healthOp) :=
  foldl_apiStep ops []

/-- Whatever connections come, the table keeps at most `MAX_HEALTH_CHECKS` checks, each name
within 63 bytes and each message within 255. -/
theorem apiRun_ok (ops : List ApiOp) : HealthTableOk (apiRun ops) := by
  rw [apiRun, foldl_apiStep]
  exact healthRun_ok _

/-- The text a run of `offset += snprintf(buf + offset, size - offset, ...)` leaves in a buffer
of `size` bytes while each text fits whole after the ones before; `none` from the first that
does not, whose cut text is not modelled here (HealthApi follows the size arguments past it). -/
def snprintfBufferText (size : Nat) : CStr → List CStr → Option CStr
  | buffer, [] => some buffer
  | buffer, text :: texts =>
    if buffer.length + text.length < size then snprintfBufferText size (buffer ++ text) texts
    else none

/-- `handle_health`: the table after the run of the checks, and the bytes of its `send_json`,
200 when `all_healthy` stays true and 503 otherwise. -/
def handleHealthResponse (checks : List RegisteredCheck) (run : Nat → HealthStatus × CStr) :
    List RegisteredCheck × Option CStr :=
  let ran := runHealthChecks run 0 checks
  (ran.1, (snprintfBufferText 4096 [] (healthPieces ran.1 ran.2)).bind
    (sendJson (if ran.2 then 200 else 503)))

theorem snprintfBufferText_eq {size : Nat} (buffer : CStr) {texts : List CStr}
    (hfit : buffer.length + (texts.map List.length).sum < size) :
    snprintfBufferText size buffer texts = some (buffer ++ texts.flatten) := by
  induction texts generalizing buffer with
  | nil => simp [snprintfBufferText]
  | cons t ts ih =>
    simp only [List.map_cons, List.sum_cons] at hfit
    rw [snprintfBufferText, if_pos (by omega), ih _ (by simp only [List.length_append]; omega),
      List.flatten_cons, List.append_assoc]

/-- Up to eleven checks, the whole document fits its buffer and goes out. -/
theorem handleHealthResponse_eq {checks : List RegisteredCheck} (hok : HealthTableOk checks)
    (hcount : checks.length ≤ 11) (run : Nat → HealthStatus × CStr) :
    let ran := runHealthChecks run 0 checks
    let body := (healthPieces ran.1 ran.2).flatten
    (handleHealthResponse checks run).2 =
      some (responseHeader (if ran.2 then 200 else 503) (lit "application/json") body.length ++
        body) := by
  have hran : HealthTableOk (runHealthChecks run 0 checks).1 := runHealthChecks_ok hok 0
  have hlen : (runHealthChecks run 0 checks).1.length = checks.length :=
    length_runHealthChecks 0 checks
  simp only [handleHealthResponse]
  generalize runHealthChecks run 0 checks = ran at hran hlen ⊢
  have hsum := sum_componentText_le hran
  have hclose : (lit "\x7d\x7d").length = 2 := by decide
  have hpieces : ((healthPieces ran.1 ran.2).map List.length).sum < 4096 := by
    rw [healthPieces, List.map_append, List.sum_append, sum_healthPieces_open]
    simp only [List.map_cons, List.map_nil, List.sum_cons, List.sum_nil, hclose]
    split_ifs <;> omega
  have hbody : (healthPieces ran.1 ran.2).flatten.length < 4096 := by
    simpa only [List.length_flatten] using hpieces
  have hcode : (if ran.2 then 200 else 503) < 1000 := by split_ifs <;> omega
  have hheader := responseHeader_length_le hcode
    (by decide : (lit "application/json").length ≤ 40) (show _ < 2 ^ 64 from hbody.trans (by omega))
  simp only [snprintfBufferText_eq [] (by simpa using hpieces), List.nil_append, Option.some_bind,
    sendJson, sendResponse]
  rw [if_pos (by omega)]

/-- On every table a run of the API leaves with at most eleven checks, `GET /health` sends its
whole document, after a header whose `Content-Length` is the document's length, with 200 when
every check with a function answered `UP` and 503 otherwise. -/
theorem health_response_whole (ops : List ApiOp) (hcount : (apiRun ops).length ≤ 11)
    (run : Nat → HealthStatus × CStr) :
    let ran := runHealthChecks run 0 (apiRun ops)
    let body := (healthPieces ran.1 ran.2).flatten
    (handleHealthResponse (apiRun ops) run).2 =
      some (responseHeader (if ran.2 then 200 else 503) (lit "application/json") body.length ++
        body) :=
  handleHealthResponse_eq (by rw [apiRun, foldl_apiStep]; exact healthRun_ok _) hcount run

theorem two_checks_health_response :
    let ops : List ApiOp := [.register (lit "redis") true, .register (lit "kurrentdb") true]
    let run : Nat → HealthStatus × CStr := fun _ => (.up, [])
    (apiRun ops).length ≤ 11 ∧
      let ran := runHealthChecks run 0 (apiRun ops)
      let body := (healthPieces ran.1 ran.2).flatten
      (handleHealthResponse (apiRun ops) run).2 = some (responseHeader (if ran.2 then 200 else 503)
        (lit "application/json") body.length ++ body) := by
  intro ops run
  exact ⟨by decide, health_response_whole ops (by decide) run⟩

end BacnetEventServer
