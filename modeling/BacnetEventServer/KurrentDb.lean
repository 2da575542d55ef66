import BacnetEventServer.Json

namespace BacnetEventServer

namespace Json

/-- `tolower` in the C locale. -/
def toLowerByte (b : UInt8) : UInt8 := if 65 ≤ b ∧ b ≤ 90 then b + 32 else b

/-- `cJSON_GetObjectItem`: the first member whose name equals `key` up to ASCII case. -/
def getObjectItemCI : Json → CStr → Option Json
  | object ms, key => (ms.find? (fun m => m.1.map toLowerByte == key.map toLowerByte)).map (·.2)
  | _, _ => none

end Json

/-- The fields of the event record the threads fill in before calling `on_event`. The
record's type is not declared under `src/`; `data` is the member that
`cJSON_PrintUnformatted` renders. -/
structure KEvent where
  eventId : CStr
  eventType : CStr
  streamName : CStr
  eventNumber : Nat
  commitPosition : Nat
  data : Option Json
  metadata : Option CStr

/-- A string member of an entry, or the empty string the zeroed record keeps. -/
def stringField (entry : Json) (key : CStr) : CStr :=
  (valueString (entry.getObjectItemCI key)).getD []

/-- `(uint64_t)number->valuedouble` for a number member, or the zeroed record's `0`. -/
def numberField (entry : Json) (key : CStr) : Nat :=
  if isNumberItem (entry.getObjectItemCI key) then
    castUInt64 (valueDouble (entry.getObjectItemCI key))
  else 0

/-- The event `subscription_poll_thread` extracts from one entry of a batch. -/
def pollEntryEvent (entry : Json) : KEvent where
  eventId := stringField entry (lit "eventId")
  eventType := stringField entry (lit "eventType")
  streamName := stringField entry (lit "eventStreamId")
  eventNumber := numberField entry (lit "eventNumber")
  commitPosition := numberField entry (lit "positionEventNumber")
  data := entry.getObjectItemCI (lit "data")
  metadata := valueString (entry.getObjectItemCI (lit "metaData"))

/-- The event `catchup_thread` extracts from one entry: no stream name, position or
metadata. -/
def catchupEntryEvent (entry : Json) : KEvent where
  eventId := stringField entry (lit "eventId")
  eventType := stringField entry (lit "eventType")
  streamName := []
  eventNumber := numberField entry (lit "eventNumber")
  commitPosition := 0
  data := entry.getObjectItemCI (lit "data")
  metadata := none

/-- The requests the client sends, each by its endpoint under `base_url`. -/
inductive HttpRequest
  /-- `GET /info`, the connection check. -/
  | info
  /-- `GET /subscriptions/{stream}/{group}/{count}?embed=body`. -/
  | readGroup (stream group : CStr) (count : Nat)
  /-- `GET /streams/{stream}/{position}/forward/{count}?embed=body`. -/
  | readForward (stream : CStr) (position count : Nat)
  /-- `POST /subscriptions/{stream}/{group}/ack/{eventId}`. -/
  | ack (stream group eventId : CStr)
  /-- `POST /subscriptions/{stream}/{group}/nack/{eventId}?action={action}`. -/
  | nack (stream group eventId action : CStr)
  deriving DecidableEq, Repr

/-- The requests that settle a delivered event with the server. -/
def HttpRequest.isSettlement : HttpRequest → Bool
  | ack .. | nack .. => true
  | _ => false

/-- The NAK actions the spec names (`nak_action_t` is not declared under `src/`). -/
inductive NakAction
  | retry
  | skip
  | park
  deriving DecidableEq, Repr

/-- The `action` query value that asks the server for each action. -/
def NakAction.text : NakAction → CStr
  | retry => lit "retry"
  | skip => lit "skip"
  | park => lit "park"

/-- What the event handler reports for an event: processed, or failed with the NAK action it
asks for. -/
inductive HandlerOutcome
  | processed
  | failed (action : NakAction)
  deriving DecidableEq, Repr

/-- What a read gets back: a transport failure, or a status code and the body as
`cJSON_Parse` reads it (`none` for an empty body or one that is not JSON). -/
inductive FetchOutcome
  | transportError
  | response (httpCode : Int) (body : Option Json)

/-- The subscription record the poll thread and the ACK and NAK calls read. -/
structure InternalSubscription where
  subscriptionId : CStr
  streamName : CStr
  groupName : CStr

/-- What one pass of the poll loop meets: whether a reconnect's `/info` check would
answer `200`, and what the batch read gets. -/
structure PollAnswer where
  infoOk : Bool
  fetch : FetchOutcome

/-- What the poll thread does that the server or the application sees. -/
inductive PollAction
  | send (request : HttpRequest)
  | deliver (event : KEvent) (outcome : HandlerOutcome)
  | reportError

/-- The actions that settle an event. -/
def PollAction.settles : PollAction → Bool
  | send r => r.isSettlement
  | _ => false

/-- The entries the loop walks, oldest first (`i` runs from `count - 1` down to `0`); a body
is read only from a `200` answer. -/
def batchEntries (httpCode : Int) : Option Json → List Json
  | some root =>
    if httpCode = 200 then (arrayItems (root.getObjectItemCI (lit "entries"))).reverse else []
  | none => []

/-- The batch read's part of a pass: a transport failure goes to `on_error`; each entry of a
batch goes to `on_event`, whose result nothing reads. -/
def pollBatch (handler : KEvent → HandlerOutcome) : FetchOutcome → List PollAction
  | .transportError => [.reportError]
  | .response code body =>
    (batchEntries code body).map fun entry =>
      .deliver (pollEntryEvent entry) (handler (pollEntryEvent entry))

/-- One pass of `subscription_poll_thread`'s loop: reconnect first when the client is not
connected (the pass ends there if the check fails), then read a batch of 10. Returns the
connection flag after the pass and what the pass did. -/
def subscriptionPollPass (sub : InternalSubscription) (handler : KEvent → HandlerOutcome)
    (connected : Bool) (answer : PollAnswer) : Bool × List PollAction :=
  let reconnect : List PollAction := if connected then [] else [.send .info]
  if connected || answer.infoOk then
    (true, reconnect ++ .send (.readGroup sub.streamName sub.groupName 10) ::
      pollBatch handler answer.fetch)
  else (false, reconnect)

/-- `subscription_poll_thread` over the answers of its passes while the subscription is
active. -/
def subscriptionPollThread (sub : InternalSubscription) (handler : KEvent → HandlerOutcome) :
    Bool → List PollAnswer → List PollAction
  | _, [] => []
  | connected, answer :: answers =>
    let pass := subscriptionPollPass sub handler connected answer
    pass.2 ++ subscriptionPollThread sub handler pass.1 answers

/-- The first subscription whose identifier is `id` (`strcmp` over the client's table). -/
def findSubscription (subs : List InternalSubscription) (id : CStr) :
    Option InternalSubscription :=
  subs.find? (·.subscriptionId == id)

/-- `kurrentdb_ack_event`: the request sent, if the subscription is known. -/
def kurrentdbAckEvent (subs : List InternalSubscription) (subscriptionId eventId : CStr) :
    Option HttpRequest :=
  (findSubscription subs subscriptionId).map fun sub =>
    .ack sub.streamName sub.groupName eventId

/-- `kurrentdb_nak_event`: the request sent, if the subscription is known. The action and
the reason are cast to `void`; the URL always asks for a retry. -/
def kurrentdbNakEvent (subs : List InternalSubscription) (subscriptionId eventId : CStr)
    (_action : NakAction) (_reason : CStr) : Option HttpRequest :=
  (findSubscription subs subscriptionId).map fun sub =>
    .nack sub.streamName sub.groupName eventId (lit "retry")

theorem pollBatch_settles (handler : KEvent → HandlerOutcome) (fetch : FetchOutcome) :
    ∀ a ∈ pollBatch handler fetch, a.settles = false := by
  cases fetch <;> simp [pollBatch, PollAction.settles]

theorem subscriptionPollPass_settles (sub : InternalSubscription)
    (handler : KEvent → HandlerOutcome) (connected : Bool) (answer : PollAnswer) :
    ∀ a ∈ (subscriptionPollPass sub handler connected answer).2, a.settles = false := by
  have hinfo :
      ∀ a ∈ (if connected then [] else [PollAction.send .info]), a.settles = false := by
    cases connected
    · intro a ha; rw [List.mem_singleton.mp ha]; rfl
    · intro a ha; cases ha
  unfold subscriptionPollPass
  dsimp only
  by_cases hc : (connected || answer.infoOk) = true
  · rw [if_pos hc]
    simp only [List.forall_mem_append, List.forall_mem_cons]
    exact ⟨hinfo, rfl, pollBatch_settles handler answer.fetch⟩
  · rw [if_neg hc]
    exact hinfo

theorem subscriptionPollThread_settles (sub : InternalSubscription)
    (handler : KEvent → HandlerOutcome) (connected : Bool) (answers : List PollAnswer) :
    ∀ a ∈ subscriptionPollThread sub handler connected answers, a.settles = false := by
  induction answers generalizing connected with
  | nil => simp [subscriptionPollThread]
  | cons answer answers ih =>
    simp only [subscriptionPollThread, List.mem_append]
    rintro a (ha | ha)
    · exact subscriptionPollPass_settles sub handler connected answer a ha
    · exact ih _ a ha

/-- Whatever batches the server returns and whatever the handler reports, the poll thread
never sends an ACK or a NAK: the handler's outcome is computed and dropped. And
`kurrentdb_nak_event` sends the same request whatever action it is given. -/
theorem poll_thread_sends_no_settlement (sub : InternalSubscription)
    (handler : KEvent → HandlerOutcome) (connected : Bool) (answers : List PollAnswer) :
    (∀ a ∈ subscriptionPollThread sub handler connected answers, a.settles = false) ∧
    ∀ (subs : List InternalSubscription) (subscriptionId eventId reason : CStr)
      (action : NakAction),
      kurrentdbNakEvent subs subscriptionId eventId action reason =
        kurrentdbNakEvent subs subscriptionId eventId .retry reason :=
  ⟨subscriptionPollThread_settles sub handler connected answers, fun _ _ _ _ _ => rfl⟩

/-- A batch of one event whose handler fails it asking to park it: the event is delivered,
nothing settles it, and a NAK sent for it by hand asks for a retry. -/
theorem poll_batch_delivered_never_settled :
    let sub : InternalSubscription := ⟨lit "sub-s-g-0", lit "s", lit "g"⟩
    let batch : Json :=
      .object [(lit "entries", .array [.object [(lit "eventId", .string (lit "e1"))]])]
    let trace : List PollAction := subscriptionPollThread sub (fun _ => .failed .park) true
      [⟨true, .response 200 (some batch)⟩]
    (∃ e, PollAction.deliver e (.failed .park) ∈ trace) ∧
    (∀ a ∈ trace, a.settles = false) ∧
    kurrentdbNakEvent [sub] (lit "sub-s-g-0") (lit "e1") .park [] =
      some (.nack (lit "s") (lit "g") (lit "e1") NakAction.retry.text) :=
  ⟨⟨_, .tail _ (.head _)⟩,
    (poll_thread_sends_no_settlement ⟨lit "sub-s-g-0", lit "s", lit "g"⟩ (fun _ => .failed .park)
      true _).1, by decide⟩

/-- The position after an entry: one past its `eventNumber`, in `uint64_t`, when it has
one. -/
def nextPosition (position : Nat) (entry : Json) : Nat :=
  if isNumberItem (entry.getObjectItemCI (lit "eventNumber")) then
    (numberField entry (lit "eventNumber") + 1) % 2 ^ 64
  else position

/-- One pass of `catchup_thread` from `position`: the events handed to `on_event`, the next
position, and whether the loop ends because the batch has no entries. The status code is not
read. -/
def catchupPass (fetch : FetchOutcome) (position : Nat) : List KEvent × Nat × Bool :=
  match fetch with
  | .response _ (some root) =>
    match root.getObjectItemCI (lit "entries") with
    | some (.array entries) =>
      if entries.length = 0 then ([], position, true)
      else (entries.reverse.map catchupEntryEvent, entries.reverse.foldl nextPosition position,
        false)
    | _ => ([], position, false)
  | _ => ([], position, false)

/-- `catchup_thread` from `position` for at most `fuel` passes; `server p n` is what the read
of `n` events forward from `p` gets. Returns the events handed to `on_event` and whether the
loop ended by catching up. -/
def catchupThread (server : Nat → Nat → FetchOutcome) : Nat → Nat → List KEvent × Bool
  | 0, _ => ([], false)
  | fuel + 1, position =>
    let pass := catchupPass (server position 100) position
    if pass.2.2 then ([], true)
    else
      let rest := catchupThread server fuel pass.2.1
      (pass.1 ++ rest.1, rest.2)

/-- Where `kurrentdb_subscribe` starts the catch-up loop. -/
inductive SubscriptionStart
  | startBegin
  | startEnd
  | startPosition
  deriving DecidableEq, Repr

/-- `ctx->from_position` as `kurrentdb_subscribe` sets it. -/
def kurrentdbSubscribeFrom : SubscriptionStart → Nat → Nat
  | .startBegin, _ => 0
  | .startEnd, _ => 2 ^ 64 - 1
  | .startPosition, startPosition => startPosition

end BacnetEventServer
