import BacnetEventServer.Types
import BacnetEventServer.JsonText

namespace BacnetEventServer

/-- The reply a Redis command gets. -/
inductive Reply
  /-- Executed, reply received. -/
  | ok
  /-- An error reply (`REDIS_REPLY_ERROR`): not executed; the connection stays usable. -/
  | error
  /-- No reply (`NULL`): the context is broken (`ctx->err`) from then on; the server may
  or may not have executed the command. -/
  | lost (applied : Bool)
  deriving DecidableEq, Repr

def Reply.applied : Reply → Bool
  | .ok => true
  | .error => false
  | .lost a => a

/-- An object, by the pair its key `object:%d:%u` and its index member `%d:%u` print. -/
abbrev ObjectKey := Int × Nat

/-- An object's stored text, as what `cJSON_ParseWithLength` makes of it (`none`: not
JSON). -/
abbrev Blob := Option Json

/-- The commands the cache layer issues, on the keys under its prefix. -/
inductive Command
  | set (key : ObjectKey) (blob : Blob)
  | get (key : ObjectKey)
  | del (key : ObjectKey)
  | sadd (member : ObjectKey)
  | srem (member : ObjectKey)
  | smembers
  | hset (field : CStr) (position : Nat)
  | hget (field : CStr)
  | hmset (name description location : CStr)
  deriving Repr

/-- The Redis server as this process sees it. `replies` scripts the replies of the coming
commands (`ok` once it runs out), so a run under every failure pattern is a run from every
script; `log` lists the commands sent, with their replies. -/
structure Redis where
  connected : Bool
  objects : ObjectKey → Option Blob
  index : List ObjectKey
  positions : CStr → Option Nat
  deviceConfig : Option (CStr × CStr × CStr)
  replies : List Reply
  log : List (Command × Reply)

namespace Redis

/-- What an executed command does to the data. -/
def apply (r : Redis) : Command → Redis
  | .set k b => { r with objects := Function.update r.objects k (some b) }
  | .del k => { r with objects := Function.update r.objects k none }
  | .sadd m => { r with index := if m ∈ r.index then r.index else r.index ++ [m] }
  | .srem m => { r with index := r.index.erase m }
  | .hset f p => { r with positions := Function.update r.positions f (some p) }
  | .hmset n d l => { r with deviceConfig := some (n, d, l) }
  | .get _ | .smembers | .hget _ => r

/-- `redisCommand`: nothing is sent on a broken context; otherwise the command takes the
next scripted reply. -/
def exec (r : Redis) (c : Command) : Redis × Reply :=
  if !r.connected then (r, .lost false)
  else
    let reply := r.replies.headD .ok
    let r1 := { r with replies := r.replies.tail, log := r.log ++ [(c, reply)] }
    let r2 := if reply.applied then r1.apply c else r1
    (if reply matches .lost _ then { r2 with connected := false } else r2, reply)

end Redis

/-- `redis_cache_is_connected`. -/
def redisCacheIsConnected (r : Redis) : Bool := r.connected

/-- `%s` of `"true"` or `"false"`. -/
def boolText (b : Bool) : CStr := if b then lit "true" else lit "false"

def jsonBool (b : Bool) : Json := .bool b

def jsonInt (n : Int) : Json := .number (CDouble.ofInt n)

/-- A float printed with `%f` and read back as a number. -/
def jsonFloat (f : CFloat) : Json := .number (printfFixed6 f.toDouble)

/-- A string printed with `"%s"`, with no escaping, and read back by cJSON. -/
def jsonText (s : CStr) : Json := .string ((readQuoted s).getD [])

/-- The members `redis_cache_store_object` prints, in the order of its format: the key, the
text of the conversion, and the value cJSON reads from that text when it reads it whole. -/
def storedMembers (o : CachedObject) : List (CStr × CStr × Json) :=
  [(lit "object_type", decimalText o.objectType, jsonInt o.objectType),
   (lit "object_instance", decimalText o.objectInstance, jsonInt o.objectInstance),
   (lit "object_name", quoted o.objectName, jsonText o.objectName),
   (lit "description", quoted o.description, jsonText o.description),
   (lit "value_type", decimalText o.valueType, jsonInt o.valueType),
   (lit "units", decimalText o.units, jsonInt o.units),
   (lit "units_text", quoted o.unitsText, jsonText o.unitsText),
   (lit "cov_increment", printfFloat o.covIncrement, jsonFloat o.covIncrement),
   (lit "min_value", printfFloat o.minValue, jsonFloat o.minValue),
   (lit "max_value", printfFloat o.maxValue, jsonFloat o.maxValue),
   (lit "state_count", decimalText o.stateCount, jsonInt o.stateCount),
   (lit "inactive_text", quoted o.inactiveText, jsonText o.inactiveText),
   (lit "active_text", quoted o.activeText, jsonText o.activeText),
   (lit "supports_priority_array", boolText o.supportsPriorityArray,
     jsonBool o.supportsPriorityArray),
   (lit "present_value_real", printfFloat o.presentValue.realValue,
     jsonFloat o.presentValue.realValue),
   (lit "present_value_unsigned", decimalText o.presentValue.unsignedValue,
     jsonInt o.presentValue.unsignedValue),
   (lit "present_value_signed", decimalText o.presentValue.signedValue,
     jsonInt o.presentValue.signedValue),
   (lit "present_value_boolean", boolText o.presentValue.booleanValue,
     jsonBool o.presentValue.booleanValue),
   (lit "status_in_alarm", boolText o.statusFlags.inAlarm, jsonBool o.statusFlags.inAlarm),
   (lit "status_fault", boolText o.statusFlags.fault, jsonBool o.statusFlags.fault),
   (lit "status_overridden", boolText o.statusFlags.overridden,
     jsonBool o.statusFlags.overridden),
   (lit "status_out_of_service", boolText o.statusFlags.outOfService,
     jsonBool o.statusFlags.outOfService),
   (lit "reliability", decimalText o.reliability, jsonInt o.reliability),
   (lit "event_state", decimalText o.eventState, jsonInt o.eventState),
   (lit "last_update", decimalText o.lastUpdate, .number (doubleOfInt o.lastUpdate)),
   (lit "source_id", quoted o.sourceId, jsonText o.sourceId),
   (lit "stream_position", decimalText o.streamPosition, .number (doubleOfInt o.streamPosition))]

/-- The text `redis_cache_store_object` prints into `json[4096]` and sends with `SET`. The
fields' arrays keep it below 2000 bytes, so `snprintf` never cuts it. -/
def objectText (o : CachedObject) : CStr :=
  123 :: membersText ((storedMembers o).map fun m => (m.1, m.2.1)) ++ [125]

/-- The document the stored text parses to when every string in it reads back whole. -/
def objectMembers (o : CachedObject) : List (CStr × Json) :=
  (storedMembers o).map fun m => (m.1, m.2.2)

/-- The blob `redis_cache_store_object` writes for an object. -/
def renderObject (o : CachedObject) : Blob := cJSONParseWithLength (objectText o)

/-- The strings of a record the store prints with `"%s"`. -/
def CachedObject.texts (o : CachedObject) : List CStr :=
  [o.objectName, o.description, o.unitsText, o.inactiveText, o.activeText, o.sourceId]

/-- The floats of a record the store prints with `%f`. -/
def CachedObject.floats (o : CachedObject) : List CFloat :=
  [o.covIncrement, o.minValue, o.maxValue, o.presentValue.realValue]

/-- Every number field of a record within its C type. -/
def CachedObject.InRange (o : CachedObject) : Prop :=
  (-2 ^ 31 ≤ o.objectType ∧ o.objectType < 2 ^ 31) ∧ o.objectInstance < 2 ^ 32 ∧
    (-2 ^ 31 ≤ o.valueType ∧ o.valueType < 2 ^ 31) ∧ o.units < 2 ^ 32 ∧
    (-2 ^ 31 ≤ o.stateCount ∧ o.stateCount < 2 ^ 31) ∧ o.reliability < 2 ^ 8 ∧
    o.eventState < 2 ^ 8 ∧ (-2 ^ 63 ≤ o.lastUpdate ∧ o.lastUpdate < 2 ^ 63) ∧
    o.streamPosition < 2 ^ 64

instance : DecidablePred CachedObject.InRange := fun _ => inferInstanceAs (Decidable (_ ∧ _))

/-- A record the store prints as a text cJSON reads whole: its strings read back, its floats
are finite and its numbers fit their C types. -/
def CachedObject.Readable (o : CachedObject) : Prop :=
  (∀ s ∈ o.texts, (readQuoted s).isSome) ∧ (∀ f ∈ o.floats, f.isFinite = true) ∧ o.InRange

instance : DecidablePred CachedObject.Readable := fun _ => inferInstanceAs (Decidable (_ ∧ _))

theorem PresentValue.signedValue_bounds (p : PresentValue) :
    -2 ^ 31 ≤ p.signedValue ∧ p.signedValue < 2 ^ 31 := by
  have : p.word.toNat < 2 ^ 32 := p.word.toNat_lt_size
  unfold PresentValue.signedValue
  split_ifs <;> omega

open Cjson in
theorem readsAs_jsonInt {n : Int} (h : n.natAbs < 2 ^ 53) : ReadsAs (decimalText n) (jsonInt n) := by
  have hread := readsAs_decimalText n (decimalText_length_le (by omega))
  rwa [doubleOfInt_of_natAbs_lt h] at hread

open Cjson in
/-- Every member of a readable record reads back as its value. -/
theorem storedMembers_readsAs {o : CachedObject} (h : o.Readable) :
    ∀ m ∈ storedMembers o, plainText m.1 = true ∧ ReadsAs m.2.1 m.2.2 := by
  obtain ⟨htexts, hfloats, ⟨ht1, ht2⟩, hi, ⟨hv1, hv2⟩, hu, ⟨hs1, hs2⟩, hrel, hev, ⟨hl1, hl2⟩,
    hsp⟩ := h
  have htext : ∀ s ∈ o.texts, ReadsAs (quoted s) (jsonText s) := fun s hs => by
    obtain ⟨str, hstr⟩ := Option.isSome_iff_exists.mp (htexts s hs)
    rw [jsonText, hstr]
    exact readsAs_quoted hstr
  have hfloat : ∀ f ∈ o.floats, ReadsAs (printfFloat f) (jsonFloat f) :=
    fun f hf => readsAs_printfFloat (hfloats f hf)
  have hw : o.presentValue.word.toNat < 2 ^ 32 := o.presentValue.word.toNat_lt_size
  have hsigned := o.presentValue.signedValue_bounds
  simp only [CachedObject.texts, CachedObject.floats, List.forall_mem_cons, List.not_mem_nil,
    false_implies, implies_true, and_true] at htext hfloat
  simp only [storedMembers, List.forall_mem_cons, List.not_mem_nil, false_implies, implies_true,
    and_true]
  refine ⟨⟨by decide, readsAs_jsonInt (by omega)⟩, ⟨by decide, readsAs_jsonInt (by omega)⟩,
    ⟨by decide, htext.1⟩, ⟨by decide, htext.2.1⟩, ⟨by decide, readsAs_jsonInt (by omega)⟩,
    ⟨by decide, readsAs_jsonInt (by omega)⟩, ⟨by decide, htext.2.2.1⟩, ⟨by decide, hfloat.1⟩,
    ⟨by decide, hfloat.2.1⟩, ⟨by decide, hfloat.2.2.1⟩, ⟨by decide, readsAs_jsonInt (by omega)⟩,
    ⟨by decide, htext.2.2.2.1⟩, ⟨by decide, htext.2.2.2.2.1⟩, ⟨by decide, readsAs_bool _⟩,
    ⟨by decide, hfloat.2.2.2⟩,
    ⟨by decide, readsAs_jsonInt (by simp only [PresentValue.unsignedValue]; omega)⟩,
    ⟨by decide, readsAs_jsonInt (by omega)⟩, ⟨by decide, readsAs_bool _⟩,
    ⟨by decide, readsAs_bool _⟩, ⟨by decide, readsAs_bool _⟩, ⟨by decide, readsAs_bool _⟩,
    ⟨by decide, readsAs_bool _⟩, ⟨by decide, readsAs_jsonInt (by omega)⟩,
    ⟨by decide, readsAs_jsonInt (by omega)⟩,
    ⟨by decide, readsAs_decimalText _ (decimalText_length_le (by omega))⟩, ⟨by decide, htext.2.2.2.2.2⟩,
    ⟨by decide, readsAs_decimalText _ (decimalText_length_le (by omega))⟩⟩

open Cjson in
/-- The blob of a readable record is the document of its members. -/
theorem renderObject_eq_object {o : CachedObject} (h : o.Readable) :
    renderObject o = some (.object (objectMembers o)) := by
  have hmembers := storedMembers_readsAs h
  have h27 : ((storedMembers o).map fun m => (m.1, m.2.1)).length = 27 := rfl
  have hlen := length_membersText_ge ((storedMembers o).map fun m => (m.1, m.2.1))
  rw [h27] at hlen
  obtain ⟨n, hn⟩ : ∃ n, (objectText o).length = n + 27 + 1 := ⟨(objectText o).length - 28, by
    simp only [objectText, List.length_cons, List.length_append, List.length_singleton]; omega⟩
  obtain ⟨after, hafter⟩ : ∃ after,
      membersText ((storedMembers o).map fun m => (m.1, m.2.1)) ++ [125] = 34 :: after :=
    ⟨_, rfl⟩
  have hparse := @parseMembers_membersText (storedMembers o) (List.cons_ne_nil _ _) hmembers []
    (n + 27) (show 27 ≤ n + 27 by omega) []
  have htext : objectText o =
      123 :: (membersText ((storedMembers o).map fun m => (m.1, m.2.1)) ++ [125]) := rfl
  rw [renderObject, cJSONParseWithLength, hn, htext, skipUtf8Bom_cons _ (by decide),
    skipWhitespace_cons _ (by decide), parseValue_object (c := 34)
    (by rw [hafter, skipWhitespace_cons _ (by decide)]) (by decide), hparse]
  simp only [Option.map_some', List.nil_append, objectMembers]

namespace RedisCache

def getIntSafe (j : Json) (key : CStr) (default : Int) : Int :=
  if isNumberItem (j.getObjectItem key) then castInt32 (valueDouble (j.getObjectItem key))
  else default

def getUintSafe (j : Json) (key : CStr) (default : Nat) : Nat :=
  if isNumberItem (j.getObjectItem key) then castUInt32 (valueDouble (j.getObjectItem key))
  else default

def getDoubleSafe (j : Json) (key : CStr) (default : CDouble) : CDouble :=
  if isNumberItem (j.getObjectItem key) then valueDouble (j.getObjectItem key) else default

def getBoolSafe (j : Json) (key : CStr) (default : Bool) : Bool :=
  match j.getObjectItem key with
  | some i => if i.isBool then i.isTrue else default
  | none => default

/-- Into a buffer of `size` bytes: the string cut to `size - 1` bytes, else the default. -/
def getStringSafe (j : Json) (key : CStr) (size : Nat) (default : CStr) : CStr :=
  strncpy (size - 1) ((valueString (j.getObjectItem key)).getD default)

def getLongSafe (j : Json) (key : CStr) (default : Int) : Int :=
  if isNumberItem (j.getObjectItem key) then castInt64 (valueDouble (j.getObjectItem key))
  else default

def getUint64Safe (j : Json) (key : CStr) (default : Nat) : Nat :=
  if isNumberItem (j.getObjectItem key) then castUInt64 (valueDouble (j.getObjectItem key))
  else default

end RedisCache

open RedisCache in
/-- The record `redis_cache_load_object` fills from a parsed blob. The four union members
are written in turn, so the last two (`signed`, then the low byte from `boolean`) decide
the union. -/
def objectOfJson (t : Int) (i : Nat) (j : Json) : CachedObject where
  objectType := getIntSafe j (lit "object_type") t
  objectInstance := getUintSafe j (lit "object_instance") i
  objectName := getStringSafe j (lit "object_name") 256 []
  description := getStringSafe j (lit "description") 512 []
  unitsText := getStringSafe j (lit "units_text") 64 []
  inactiveText := getStringSafe j (lit "inactive_text") 64 []
  activeText := getStringSafe j (lit "active_text") 64 []
  sourceId := getStringSafe j (lit "source_id") 128 []
  valueType := getIntSafe j (lit "value_type") valueTypeReal
  units := getUintSafe j (lit "units") 95
  covIncrement := CFloat.ofDouble (getDoubleSafe j (lit "cov_increment") (CDouble.ofInt 0))
  minValue := CFloat.ofDouble (getDoubleSafe j (lit "min_value") (CDouble.ofInt 0))
  maxValue := CFloat.ofDouble (getDoubleSafe j (lit "max_value") (CDouble.ofInt 0))
  stateCount := getIntSafe j (lit "state_count") 0
  supportsPriorityArray := getBoolSafe j (lit "supports_priority_array") false
  presentValue :=
    ((((PresentValue.zero.setReal
      (CFloat.ofDouble (getDoubleSafe j (lit "present_value_real") (CDouble.ofInt 0)))).setUnsigned
      (getUintSafe j (lit "present_value_unsigned") 0)).setSigned
      (getIntSafe j (lit "present_value_signed") 0)).setBoolean
      (getBoolSafe j (lit "present_value_boolean") false))
  statusFlags := ⟨getBoolSafe j (lit "status_in_alarm") false,
    getBoolSafe j (lit "status_fault") false, getBoolSafe j (lit "status_overridden") false,
    getBoolSafe j (lit "status_out_of_service") false⟩
  reliability := getUintSafe j (lit "reliability") 0 % 2 ^ 8
  eventState := getUintSafe j (lit "event_state") 0 % 2 ^ 8
  lastUpdate := getLongSafe j (lit "last_update") 0
  streamPosition := getUint64Safe j (lit "stream_position") 0
  stateTexts := (List.range 16).map fun k =>
    match ((arrayItems (j.getObjectItem (lit "state_texts")))[k]? : Option Json) with
    | some (Json.string s) => strncpy 63 s
    | _ => []

theorem castInt32_ofInt {n : Int} (h : -2 ^ 31 ≤ n ∧ n < 2 ^ 31) :
    castInt32 (CDouble.ofInt n) = n := by
  have htrunc : (CDouble.ofInt n).trunc = n := by simp [CDouble.trunc, CDouble.ofInt]
  rw [castInt32, htrunc, if_pos h]

theorem castUInt32_ofInt {n : Nat} (h : n < 2 ^ 32) : castUInt32 (CDouble.ofInt n) = n := by
  have htrunc : (CDouble.ofInt n).trunc = n := by simp [CDouble.trunc, CDouble.ofInt]
  rw [castUInt32, castInt64, htrunc, if_pos (by omega)]
  omega

theorem castInt32_bounds (x : CDouble) : -2 ^ 31 ≤ castInt32 x ∧ castInt32 x < 2 ^ 31 := by
  unfold castInt32
  split_ifs with h
  exacts [h, by omega]

theorem castUInt32_lt (x : CDouble) : castUInt32 x < 2 ^ 32 := by
  unfold castUInt32
  have := Int.emod_lt_of_pos (castInt64 x) (by norm_num : (0 : Int) < 2 ^ 32)
  have := Int.emod_nonneg (castInt64 x) (by norm_num : (2 : Int) ^ 32 ≠ 0)
  omega

open Cjson in
/-- A stored text that parses starts with the object's type and instance. -/
theorem renderObject_head {o : CachedObject} (htype : o.objectType.natAbs < 2 ^ 53)
    (hinst : o.objectInstance < 2 ^ 53) {j : Json} (h : renderObject o = some j) :
    ∃ tail, j = .object ((lit "object_type", jsonInt o.objectType) ::
      (lit "object_instance", jsonInt o.objectInstance) :: tail) := by
  obtain ⟨m3, ms, hms⟩ : ∃ m3 ms, (storedMembers o).map (fun m => (m.1, m.2.1)) =
      (lit "object_type", decimalText o.objectType) ::
        (lit "object_instance", decimalText o.objectInstance) :: m3 :: ms := ⟨_, _, rfl⟩
  have htext : objectText o = 123 :: (quoted (lit "object_type") ++ 58 ::
      (decimalText o.objectType ++ 44 :: (quoted (lit "object_instance") ++ 58 ::
        (decimalText o.objectInstance ++ 44 :: (membersText (m3 :: ms) ++ [125]))))) := by
    rw [objectText, hms]
    simp only [membersText, List.append_assoc, List.cons_append]
  obtain ⟨n, hn⟩ : ∃ n, (objectText o).length = n + 1 + 1 + 1 :=
    ⟨(objectText o).length - 3, by rw [htext]; simp only [List.length_cons, List.length_append]; omega⟩
  rw [renderObject, cJSONParseWithLength, hn, htext, skipUtf8Bom_cons _ (by decide),
    skipWhitespace_cons _ (by decide),
    parseValue_object (c := 34)
      (by simp only [quoted, List.cons_append]; exact skipWhitespace_cons _ (by decide)) (by decide),
    parseMembers_member (by decide) (readsAs_jsonInt htype),
    parseMembers_member (by decide) (readsAs_jsonInt (by omega)), Option.map_map] at h
  obtain ⟨⟨ms', rest⟩, hparse, rfl⟩ := Option.map_eq_some'.mp h
  obtain ⟨tail, rfl⟩ := parseMembers_prefix hparse
  exact ⟨tail, rfl⟩

/-- A record of fitting type and instance reads back with them whenever its text parses. -/
theorem objectOfJson_key_of_renderObject {o : CachedObject}
    (htype : -2 ^ 31 ≤ o.objectType ∧ o.objectType < 2 ^ 31) (hinst : o.objectInstance < 2 ^ 32)
    {j : Json} (h : renderObject o = some j) (t : Int) (i : Nat) :
    ((objectOfJson t i j).objectType, (objectOfJson t i j).objectInstance) =
      (o.objectType, o.objectInstance) := by
  obtain ⟨tail, rfl⟩ := renderObject_head (by omega) (by omega) h
  have hne : (lit "object_type" == lit "object_instance") = false := by decide
  simp only [objectOfJson, RedisCache.getIntSafe, isNumberItem, Json.getObjectItem, jsonInt,
    beq_self_eq_true, List.find?_cons_of_pos, Option.map_some', Json.isNumber, ↓reduceIte,
    valueDouble, castInt32_ofInt htype, RedisCache.getUintSafe, hne, Bool.false_eq_true,
    not_false_eq_true, List.find?_cons_of_neg, castUInt32_ofInt hinst]

/-- `redis_cache_store_object`: `SET` the blob, then `SADD` the index member, whose reply
is not looked at. -/
def redisCacheStoreObject (r : Redis) (o : CachedObject) : Redis × Int :=
  if !redisCacheIsConnected r then (r, -1)
  else
    let set := r.exec (.set (o.objectType, o.objectInstance) (renderObject o))
    if set.2 != .ok then (set.1, -1)
    else ((set.1.exec (.sadd (o.objectType, o.objectInstance))).1, 0)

/-- `redis_cache_load_object`: `GET` the blob and read it. -/
def redisCacheLoadObject (r : Redis) (t : Int) (i : Nat) : Redis × Option CachedObject :=
  if !redisCacheIsConnected r then (r, none)
  else
    let get := r.exec (.get (t, i))
    if get.2 != .ok then (get.1, none)
    else
      match r.objects (t, i) with
      | some (some j) => (get.1, some (objectOfJson t i j))
      | _ => (get.1, none)

/-- The union member `redis_cache_update_value` copies from `*value`, by value type. -/
def PresentValue.writeMember (dst : PresentValue) (valueType : Int) (src : PresentValue) :
    PresentValue :=
  if valueType = valueTypeReal then dst.setReal src.realValue
  else if valueType = valueTypeUnsigned ∨ valueType = valueTypeEnumerated then
    dst.setUnsigned src.unsignedValue
  else if valueType = valueTypeSigned then dst.setSigned src.signedValue
  else if valueType = valueTypeBoolean then dst.setBoolean src.booleanValue
  else dst

/-- The record `redis_cache_update_value` stores back: the loaded one with the value's union
member, the flags when given and the time; its `stream_position` stays the loaded one. -/
def updatedRecord (obj : CachedObject) (valueType : Int) (value : PresentValue)
    (flags : Option StatusFlags) (sourceTimestamp now : Int) : CachedObject :=
  { obj with
    presentValue := obj.presentValue.writeMember valueType value
    statusFlags := flags.getD obj.statusFlags
    lastUpdate := if sourceTimestamp ≠ 0 then sourceTimestamp else now }

/-- `redis_cache_update_value`: load the whole record, change it, store it again. -/
def redisCacheUpdateValue (r : Redis) (t : Int) (i : Nat) (valueType : Int)
    (value : PresentValue) (flags : Option StatusFlags) (sourceTimestamp now : Int) :
    Redis × Int :=
  if !redisCacheIsConnected r then (r, -1)
  else
    let loaded := redisCacheLoadObject r t i
    match loaded.2 with
    | none => (loaded.1, -1)
    | some obj =>
      redisCacheStoreObject loaded.1 (updatedRecord obj valueType value flags sourceTimestamp now)

/-- `redis_cache_delete_object`: `DEL` and `SREM`, replies not looked at. -/
def redisCacheDeleteObject (r : Redis) (t : Int) (i : Nat) : Redis × Int :=
  if !redisCacheIsConnected r then (r, -1)
  else (((r.exec (.del (t, i))).1.exec (.srem (t, i))).1, 0)

/-- The objects `redis_cache_iterate_objects` hands to its callback, in index order: the
members that pass the type filter and whose blob loads. -/
def loadMembers (filter : Int) : Redis → List ObjectKey → Redis × List CachedObject
  | r, [] => (r, [])
  | r, (t, i) :: ms =>
    if filter = objectTypeMax ∨ filter = t then
      let loaded := redisCacheLoadObject r t i
      let rest := loadMembers filter loaded.1 ms
      (rest.1, loaded.2.toList ++ rest.2)
    else loadMembers filter r ms

/-- `redis_cache_iterate_objects`: `SMEMBERS` the index, then load each member
(`none`: the `-1` return). -/
def redisCacheIterateObjects (r : Redis) (filter : Int) : Redis × Option (List CachedObject) :=
  if !redisCacheIsConnected r then (r, none)
  else
    let members := r.exec .smembers
    if members.2 != .ok then (members.1, none)
    else
      let loaded := loadMembers filter members.1 r.index
      (loaded.1, some loaded.2)

/-- `redis_cache_store_stream_position`: `HSET` of the subscription's field. -/
def redisCacheStoreStreamPosition (r : Redis) (subscriptionId : CStr) (position : Nat) :
    Redis × Int :=
  if !redisCacheIsConnected r then (r, -1)
  else
    let hset := r.exec (.hset subscriptionId position)
    (hset.1, if hset.2 = .ok then 0 else -1)

/-- `redis_cache_load_stream_position`. -/
def redisCacheLoadStreamPosition (r : Redis) (subscriptionId : CStr) : Redis × Option Nat :=
  if !redisCacheIsConnected r then (r, none)
  else
    let hget := r.exec (.hget subscriptionId)
    (hget.1, if hget.2 = .ok then r.positions subscriptionId else none)

/-- `redis_cache_store_device_config`: `HMSET` of the three fields (nothing calls it). -/
def redisCacheStoreDeviceConfig (r : Redis) (name description location : Option CStr) :
    Redis × Int :=
  if !redisCacheIsConnected r then (r, -1)
  else
    let hmset := r.exec (.hmset (name.getD []) (description.getD []) (location.getD []))
    (hmset.1, if hmset.2 = .ok then 0 else -1)

end BacnetEventServer
