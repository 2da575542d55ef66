import Mathlib.Data.Nat.Digits
import BacnetEventServer.KurrentDb
import BacnetEventServer.Logging
import BacnetEventServer.Iso8601

namespace BacnetEventServer

/-- The record of the `count`-th subscription: the id `snprintf` writes and the names
`strncpy` copies, each into its field. -/
def subscriptionRecord (streamName groupName : CStr) (count : Nat) : InternalSubscription where
  subscriptionId :=
    snprintfText 128 (lit "sub-" ++ streamName ++ lit "-" ++ groupName ++ lit "-" ++
      decimalText count)
  streamName := strncpy 255 streamName
  groupName := strncpy 127 groupName

/-- `kurrentdb_subscribe_persistent`: the table with the new record last, and the id copied
to `out_subscription_id` (a buffer of at least 128 bytes). -/
def kurrentdbSubscribePersistent (subs : List InternalSubscription) (streamName groupName : CStr) :
    List InternalSubscription × CStr :=
  let sub := subscriptionRecord streamName groupName subs.length
  (subs ++ [sub], sub.subscriptionId)

/-- `kurrentdb_unsubscribe`: the position of the record whose poll thread it stops, the first
whose id is `id`. -/
def kurrentdbUnsubscribe (subs : List InternalSubscription) (id : CStr) : Option Nat :=
  subs.findIdx? (·.subscriptionId == id)

/-- `snprintf` keeps 127 bytes of the id: `sub-` and 123 bytes of what follows it. -/
theorem subscriptionId_eq (streamName groupName : CStr) (count : Nat) :
    (subscriptionRecord streamName groupName count).subscriptionId =
      lit "sub-" ++ (streamName ++ lit "-" ++ groupName ++ lit "-" ++ decimalText count).take 123 := by
  have hprefix : (lit "sub-").length = 4 := by decide
  simp only [subscriptionRecord, snprintfText, List.append_assoc, List.take_append_eq_append_take,
    hprefix, List.take_of_length_le (by omega : (lit "sub-").length ≤ 127)]

/-- A stream name of 123 bytes or more leaves no room for the group or the count. -/
theorem subscriptionId_of_long_stream {streamName : CStr} (hlong : 123 ≤ streamName.length)
    (groupName : CStr) (count : Nat) :
    (subscriptionRecord streamName groupName count).subscriptionId =
      lit "sub-" ++ streamName.take 123 := by
  rw [subscriptionId_eq, List.append_assoc, List.append_assoc, List.append_assoc,
    List.take_append_of_le_length hlong]

section Resolve

variable {subs : List InternalSubscription} {sub : InternalSubscription}

theorem findSubscription_append_of_mem (hmem : sub ∈ subs) (more : List InternalSubscription) :
    findSubscription (subs ++ more) sub.subscriptionId = findSubscription subs sub.subscriptionId := by
  have hsome : (subs.find? (·.subscriptionId == sub.subscriptionId)).isSome :=
    List.find?_isSome.mpr ⟨sub, hmem, beq_self_eq_true _⟩
  obtain ⟨found, hfound⟩ := Option.isSome_iff_exists.mp hsome
  rw [findSubscription, findSubscription, List.find?_append, hfound, Option.or_some]

theorem kurrentdbUnsubscribe_append_of_mem (hmem : sub ∈ subs) (more : List InternalSubscription) :
    ∃ i < subs.length, kurrentdbUnsubscribe (subs ++ more) sub.subscriptionId = some i := by
  have hsome : (subs.findIdx? (·.subscriptionId == sub.subscriptionId)).isSome := by
    rw [List.findIdx?_isSome]
    exact List.any_eq_true.mpr ⟨sub, hmem, beq_self_eq_true _⟩
  obtain ⟨i, hi⟩ := Option.isSome_iff_exists.mp hsome
  obtain ⟨hlt, -⟩ := List.findIdx?_eq_some_iff_getElem.mp hi
  exact ⟨i, hlt, by rw [kurrentdbUnsubscribe, List.findIdx?_append, hi, Option.or_some]⟩

end Resolve

/-- Two subscriptions to one stream of 123 bytes or more share an id, and `ack`, `nak` and
`unsubscribe` with the second one's id act as if it had never been made. -/
theorem subscription_ids_collide_on_long_stream (subs : List InternalSubscription)
    (streamName groupName₁ groupName₂ : CStr) (hlong : 123 ≤ streamName.length) :
    let first : List InternalSubscription × CStr :=
      kurrentdbSubscribePersistent subs streamName groupName₁
    let second : List InternalSubscription × CStr :=
      kurrentdbSubscribePersistent first.1 streamName groupName₂
    second.2 = first.2 ∧
      (∀ eventId, kurrentdbAckEvent second.1 second.2 eventId =
        kurrentdbAckEvent first.1 first.2 eventId) ∧
      (∀ eventId action reason, kurrentdbNakEvent second.1 second.2 eventId action reason =
        kurrentdbNakEvent first.1 first.2 eventId action reason) ∧
      ∃ i ≤ subs.length, kurrentdbUnsubscribe second.1 second.2 = some i := by
  intro first second
  have hid : second.2 = first.2 :=
    (subscriptionId_of_long_stream hlong _ _).trans (subscriptionId_of_long_stream hlong _ _).symm
  have hmem : subscriptionRecord streamName groupName₁ subs.length ∈ first.1 :=
    List.mem_append_right _ (List.mem_singleton_self _)
  have hfind : findSubscription second.1 second.2 = findSubscription first.1 first.2 := by
    rw [hid]
    exact findSubscription_append_of_mem hmem _
  obtain ⟨i, hi, hstop⟩ := kurrentdbUnsubscribe_append_of_mem hmem
    [subscriptionRecord streamName groupName₂ first.1.length]
  refine ⟨hid, fun _ => by rw [kurrentdbAckEvent, hfind, kurrentdbAckEvent],
    fun _ _ _ => by rw [kurrentdbNakEvent, hfind, kurrentdbNakEvent], i, ?_, hid ▸ hstop⟩
  simpa [first, kurrentdbSubscribePersistent, Nat.lt_succ_iff] using hi

/-- Groups `a` and `b` of one stream of 123 bytes: the second subscription's id is the first's,
an acknowledgement with it goes to group `a`, and the unsubscription stops the first. -/
theorem long_stream_ack_reaches_first_group :
    let streamName : CStr := List.replicate 123 120
    let first : List InternalSubscription × CStr := kurrentdbSubscribePersistent [] streamName [97]
    let second : List InternalSubscription × CStr :=
      kurrentdbSubscribePersistent first.1 streamName [98]
    streamName.length ≤ 255 ∧ second.2 = first.2 ∧
      kurrentdbAckEvent second.1 second.2 [101] = some (.ack streamName [97] [101]) ∧
      kurrentdbUnsubscribe second.1 second.2 = some 0 := by
  intro streamName first second
  have hlength : streamName.length = 123 := List.length_replicate 123 120
  obtain ⟨hid, hack, -, i, hi, hstop⟩ :=
    subscription_ids_collide_on_long_stream [] streamName [97] [98] hlength.ge
  have hfirst : findSubscription first.1 first.2 =
      some (subscriptionRecord streamName [97] 0) := by
    simp [first, findSubscription, kurrentdbSubscribePersistent]
  have hshort : streamName.length ≤ 255 := by omega
  refine ⟨hshort, hid, (hack _).trans ?_, by rw [hstop, Nat.le_zero.mp hi]⟩
  rw [kurrentdbAckEvent, hfirst]
  simp only [Option.map_some', subscriptionRecord, strncpy, List.take_of_length_le hshort]
  rfl

/-- The number after an id's last `-`: the count `%zu` printed, while the id is whole. -/
def subscriptionIdCount (id : CStr) : Nat :=
  digitsValue (id.reverse.takeWhile (· != 45)).reverse

/-- `kurrentdb_subscribe_persistent` called in turn with each stream and group. -/
def subscribeRun (subs : List InternalSubscription) :
    List (CStr × CStr) → List InternalSubscription
  | [] => subs
  | (streamName, groupName) :: calls =>
    subscribeRun (kurrentdbSubscribePersistent subs streamName groupName).1 calls

theorem toDigitsCore_append (fuel n : Nat) (ds : List Char) :
    Nat.toDigitsCore 10 fuel n ds = Nat.toDigitsCore 10 fuel n [] ++ ds := by
  induction fuel generalizing n ds with
  | zero => rfl
  | succ fuel ih =>
    simp only [Nat.toDigitsCore]
    split_ifs
    · rfl
    · rw [ih _ (_ :: ds), ih _ [_], List.append_assoc, List.singleton_append]

theorem utf8EncodeChar_digitChar {d : Nat} (hd : d < 10) :
    String.utf8EncodeChar (Nat.digitChar d) = [digitByte d] := by
  have hall : ∀ d < 10, String.utf8EncodeChar (Nat.digitChar d) = [digitByte d] := by decide
  exact hall d hd

theorem decimalText_eq (n : Nat) :
    decimalText n = (Nat.toDigitsCore 10 (n + 1) n []).flatMap String.utf8EncodeChar := rfl

/-- The bytes `%zu` prints: their value, no `-`, and at most `e` of them below `10 ^ e`. -/
theorem toDigitsCore_bytes {fuel n : Nat} (hn : n < fuel) :
    digitsValue ((Nat.toDigitsCore 10 fuel n []).flatMap String.utf8EncodeChar) = n ∧
      (∀ b ∈ (Nat.toDigitsCore 10 fuel n []).flatMap String.utf8EncodeChar, b ≠ 45) ∧
      ∀ e, 0 < e → n < 10 ^ e →
        ((Nat.toDigitsCore 10 fuel n []).flatMap String.utf8EncodeChar).length ≤ e := by
  induction fuel generalizing n with
  | zero => omega
  | succ fuel ih =>
    have hmod : n % 10 < 10 := Nat.mod_lt n (by omega)
    have hd := digitByte_facts hmod
    simp only [Nat.toDigitsCore]
    split_ifs with h0
    · simp only [List.flatMap_cons, List.flatMap_nil, List.append_nil,
        utf8EncodeChar_digitChar hmod]
      refine ⟨?_, by simpa using hd.2.2.1, fun e he _ => by simpa using he⟩
      rw [← List.nil_append [digitByte _], digitsValue_append_digit, hd.2.1]
      simp only [digitsValue, List.foldl_nil]
      omega
    · obtain ⟨hval, hdash, hlen⟩ := ih (by omega : n / 10 < fuel)
      rw [toDigitsCore_append, List.flatMap_append, List.flatMap_singleton,
        utf8EncodeChar_digitChar hmod]
      refine ⟨by rw [digitsValue_append_digit, hval, hd.2.1]; omega, ?_, fun e he hlt => ?_⟩
      · simp only [List.mem_append, List.mem_singleton]
        rintro b (hb | rfl)
        · exact hdash b hb
        · exact hd.2.2.1
      · obtain ⟨e, rfl⟩ : ∃ e', e = e' + 1 := ⟨e - 1, by omega⟩
        rw [Nat.pow_succ] at hlt
        have he' : 0 < e := Nat.pos_of_ne_zero fun h => by subst h; omega
        simpa using hlen e he' (by omega)

theorem takeWhile_reverse_dash {p q : CStr} (hq : ∀ b ∈ q, b ≠ 45) :
    ((p ++ 45 :: q).reverse.takeWhile (· != 45)).reverse = q := by
  have hall : ∀ b ∈ q.reverse, (b != 45) = true := fun b hb => by
    simpa using hq b (List.mem_reverse.mp hb)
  rw [List.reverse_append, List.reverse_cons, List.append_assoc, List.singleton_append,
    List.takeWhile_append_of_pos hall]
  simp

theorem subscriptionIdCount_of_fits {streamName groupName : CStr} {count : Nat}
    (hfit : (lit "sub-" ++ streamName ++ lit "-" ++ groupName ++ lit "-" ++
      decimalText count).length ≤ 127) :
    subscriptionIdCount (subscriptionRecord streamName groupName count).subscriptionId =
      count := by
  obtain ⟨hval, hdash, -⟩ := toDigitsCore_bytes (show count < count + 1 by omega)
  have hdash' : lit "-" = [45] := by decide
  rw [subscriptionRecord, snprintfText, List.take_of_length_le hfit, subscriptionIdCount,
    hdash', List.append_assoc, List.singleton_append, decimalText_eq,
    takeWhile_reverse_dash hdash, hval]

/-- Streams and groups of 101 bytes together leave every id whole. -/
theorem subscriptionText_fits {streamName groupName : CStr} {count : Nat} (hcount : count < 2 ^ 64)
    (hnames : streamName.length + groupName.length ≤ 101) :
    (lit "sub-" ++ streamName ++ lit "-" ++ groupName ++ lit "-" ++
      decimalText count).length ≤ 127 := by
  obtain ⟨-, -, hlen⟩ := toDigitsCore_bytes (show count < count + 1 by omega)
  have hdigits := hlen 20 (by decide) (by omega)
  have hprefix : (lit "sub-").length = 4 := by decide
  have hdash : (lit "-").length = 1 := by decide
  simp only [List.length_append, hprefix, hdash, decimalText_eq]
  omega

theorem subscribeRun_counts {subs : List InternalSubscription} {calls : List (CStr × CStr)}
    (hsubs : ∀ k (hk : k < subs.length), subscriptionIdCount subs[k].subscriptionId = k)
    (hcount : subs.length + calls.length ≤ 2 ^ 64)
    (hnames : ∀ c ∈ calls, c.1.length + c.2.length ≤ 101) :
    ∀ k (hk : k < (subscribeRun subs calls).length),
      subscriptionIdCount (subscribeRun subs calls)[k].subscriptionId = k := by
  induction calls generalizing subs with
  | nil => exact hsubs
  | cons call calls ih =>
    obtain ⟨streamName, groupName⟩ := call
    refine ih (fun k hk => ?_) (by
        simp only [kurrentdbSubscribePersistent, List.length_append, List.length_cons,
          List.length_nil] at hcount ⊢
        omega)
      (fun c hc => hnames c (List.mem_cons_of_mem _ hc))
    simp only [kurrentdbSubscribePersistent, List.length_append, List.length_singleton] at hk
    by_cases hold : k < subs.length
    · simp only [kurrentdbSubscribePersistent, List.getElem_append_left hold, hsubs k hold]
    · have hk' : k = subs.length := by omega
      subst hk'
      simp only [kurrentdbSubscribePersistent, List.getElem_concat_length _ _ _ rfl]
      exact subscriptionIdCount_of_fits (subscriptionText_fits (by simp at hcount; omega)
        (hnames _ (List.mem_cons_self _ _)))

/-- While streams and groups stay within 101 bytes, each id resolves to its own subscription. -/
theorem subscription_ids_resolve_while_whole (calls : List (CStr × CStr))
    (hcount : calls.length ≤ 2 ^ 64) (hnames : ∀ c ∈ calls, c.1.length + c.2.length ≤ 101)
    (k : Nat) (hk : k < (subscribeRun [] calls).length) :
    kurrentdbUnsubscribe (subscribeRun [] calls) (subscribeRun [] calls)[k].subscriptionId =
        some k ∧
      findSubscription (subscribeRun [] calls) (subscribeRun [] calls)[k].subscriptionId =
        some (subscribeRun [] calls)[k] := by
  have hc : ∀ k (hk : k < (subscribeRun [] calls).length),
      subscriptionIdCount (subscribeRun [] calls)[k].subscriptionId = k :=
    subscribeRun_counts (fun k hk => absurd hk (Nat.not_lt_zero k)) (by simpa using hcount)
      hnames
  have hinj : ∀ j (hj : j < (subscribeRun [] calls).length),
      (subscribeRun [] calls)[j].subscriptionId = (subscribeRun [] calls)[k].subscriptionId →
        j = k := fun j hj h => by rw [← hc j hj, h, hc k hk]
  constructor
  · rw [kurrentdbUnsubscribe, List.findIdx?_eq_some_iff_getElem]
    exact ⟨hk, by simp, fun j hj h => absurd (hinj j _ (by simpa using h)) (by omega)⟩
  · rw [findSubscription, List.find?_eq_some_iff_getElem]
    exact ⟨by simp, k, hk, rfl, fun j hj => by
      simpa using fun h => absurd (hinj j _ h) (by omega)⟩

end BacnetEventServer
