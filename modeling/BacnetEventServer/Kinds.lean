import BacnetEventServer.Registry

namespace BacnetEventServer

/-- A definition takes its kind from `presentValueType`, whatever the object type. -/
theorem parseObjectDefinition_valueType {payload : Json} {m : ObjectDefinitionMsg}
    (h : parseObjectDefinition payload = .ok m) :
    ∃ pvt, getStringSafe payload (lit "presentValueType") none = some pvt ∧
      m.valueType = parseValueType pvt := by
  unfold parseObjectDefinition at h
  cases hid : parseObjectId payload with
  | error e => simp [hid, bind, Except.bind] at h
  | ok key =>
    cases hname : getStringSafe payload (lit "objectName") none with
    | none => simp [hid, hname, required, bind, Except.bind] at h
    | some name =>
      cases hpvt : getStringSafe payload (lit "presentValueType") none with
      | none => simp [hid, hname, hpvt, required, bind, Except.bind] at h
      | some pvt =>
        simp [hid, hname, hpvt, required, bind, Except.bind, pure, Except.pure] at h
        exact ⟨pvt, rfl, by rw [← h]⟩

/-- An update takes its kind from the object type alone. -/
theorem parseValueUpdate_valueType {payload : Json} {m : ValueUpdateMsg}
    (h : parseValueUpdate payload = .ok m) :
    m.valueType =
      if m.objectType = objectBinaryInput ∨ m.objectType = objectBinaryOutput ∨
          m.objectType = objectBinaryValue then valueTypeBoolean
      else if m.objectType = objectMultiStateInput ∨ m.objectType = objectMultiStateOutput ∨
          m.objectType = objectMultiStateValue then valueTypeUnsigned
      else valueTypeReal := by
  unfold parseValueUpdate at h
  cases hid : parseObjectId payload with
  | error e => simp [hid, bind, Except.bind] at h
  | ok key =>
    cases hitem : payload.getObjectItem (lit "presentValue") with
    | none => simp [hid, hitem, required, bind, Except.bind] at h
    | some item =>
      simp [hid, hitem, required, bind, Except.bind, pure, Except.pure] at h
      rw [← h]
      simp only [presentValueOf]
      split_ifs <;> rfl

/-- The kind of a definition comes from its `presentValueType`, the kind of an update from
the object type alone, and an update of an object the cache and the registry hold is
accepted with no Redis failure whatever the kind the object was defined with. -/
theorem value_kinds_of_definitions_and_updates :
    (∀ payload m, parseObjectDefinition payload = .ok m →
      ∃ pvt, getStringSafe payload (lit "presentValueType") none = some pvt ∧
        m.valueType = parseValueType pvt) ∧
    (∀ payload m, parseValueUpdate payload = .ok m →
      m.valueType =
        if m.objectType = objectBinaryInput ∨ m.objectType = objectBinaryOutput ∨
            m.objectType = objectBinaryValue then valueTypeBoolean
        else if m.objectType = objectMultiStateInput ∨ m.objectType = objectMultiStateOutput ∨
            m.objectType = objectMultiStateValue then valueTypeUnsigned
        else valueTypeReal) ∧
    (∀ (g : Gateway) (m : ValueUpdateMsg) (instanceOffset : Nat) (now : Int) (j : Json),
      knownValueType m.valueType = true → g.redis.connected = true → g.redis.replies = [] →
      g.redis.objects (m.objectType, (m.objectInstance + instanceOffset) % 2 ^ 32) =
        some (some j) →
      (findObject g.server m.objectType ((m.objectInstance + instanceOffset) % 2 ^ 32)).isSome →
      (messageHandlerProcessValueUpdate g m instanceOffset now).2 = 0) :=
  ⟨fun _ _ h => parseObjectDefinition_valueType h, fun _ _ h => parseValueUpdate_valueType h,
    fun _ _ _ _ _ hknown hc hr hj hobj =>
      messageHandlerProcessValueUpdate_accepted hknown hc hr hj hobj⟩

/-- A multi-state update carries the `uint32_t` conversion of `presentValue`. -/
theorem parseValueUpdate_multiState {payload : Json} {m : ValueUpdateMsg}
    (h : parseValueUpdate payload = .ok m)
    (hmulti : m.objectType = objectMultiStateInput ∨ m.objectType = objectMultiStateOutput ∨
      m.objectType = objectMultiStateValue) :
    m.valueType = valueTypeUnsigned ∧ m.presentValue =
      PresentValue.zero.setUnsigned
        (castUInt32 (valueDouble (payload.getObjectItem (lit "presentValue")))) := by
  unfold parseValueUpdate at h
  cases hid : parseObjectId payload with
  | error e => simp [hid, bind, Except.bind] at h
  | ok key =>
    cases hitem : payload.getObjectItem (lit "presentValue") with
    | none => simp [hid, hitem, required, bind, Except.bind] at h
    | some item =>
      simp [hid, hitem, required, bind, Except.bind, pure, Except.pure] at h
      subst h
      rcases hmulti with hm | hm | hm <;>
        simp only at hm <;>
        simp [presentValueOf, hm, objectBinaryInput, objectBinaryOutput, objectBinaryValue,
          objectMultiStateInput, objectMultiStateOutput, objectMultiStateValue]

/-- With no Redis failure, an update of a multi-state object that the cache and the
registry hold is accepted with the `uint32_t` conversion of its `presentValue`, whatever
the object's `state_count`: neither the decoder nor the handler compares the two. -/
theorem multiState_update_not_range_checked (g : Gateway) (payload : Json) (m : ValueUpdateMsg)
    (instanceOffset : Nat) (now : Int) (j : Json) (hparse : parseValueUpdate payload = .ok m)
    (hmulti : m.objectType = objectMultiStateInput ∨ m.objectType = objectMultiStateOutput ∨
      m.objectType = objectMultiStateValue)
    (hc : g.redis.connected = true) (hr : g.redis.replies = [])
    (hj : g.redis.objects (m.objectType, (m.objectInstance + instanceOffset) % 2 ^ 32) =
      some (some j))
    (hobj :
      (findObject g.server m.objectType ((m.objectInstance + instanceOffset) % 2 ^ 32)).isSome) :
    (messageHandlerProcessValueUpdate g m instanceOffset now).2 = 0 ∧
      ∃ obj, findObject (messageHandlerProcessValueUpdate g m instanceOffset now).1.server
          m.objectType ((m.objectInstance + instanceOffset) % 2 ^ 32) = some obj ∧
        obj.presentValue =
          .unsigned (castUInt32 (valueDouble (payload.getObjectItem (lit "presentValue")))) := by
  obtain ⟨htype, hvalue⟩ := parseValueUpdate_multiState hparse hmulti
  have hknown : knownValueType m.valueType = true := by
    simp [htype, knownValueType, valueTypeUnsigned]
  have hok : (messageHandlerProcessValueUpdate g m instanceOffset now).2 = 0 :=
    messageHandlerProcessValueUpdate_accepted hknown hc hr hj hobj
  obtain ⟨obj, hfind, hobjValue⟩ := messageHandlerProcessValueUpdate_findObject hok
  refine ⟨hok, obj, hfind, ?_⟩
  have hlt : castUInt32 (valueDouble (payload.getObjectItem (lit "presentValue"))) <
      UInt32.size := castUInt32_lt _
  rw [hobjValue, htype, hvalue]
  simp [ServerApi.taggedValue, valueTypeUnsigned, valueTypeReal, PresentValue.setUnsigned,
    PresentValue.unsignedValue, UInt32.toNat_ofNat_of_lt hlt]

set_option maxRecDepth 2000 in
/-- A multi-state value whose cached record has three states is updated to 0: the update
is accepted and the registry holds 0. -/
theorem multiState_zero_accepted :
    let payload : Json := .object [(lit "objectType", .string (lit "multi-state-value")),
      (lit "objectInstance", .number (CDouble.ofInt 1)),
      (lit "presentValue", .number (CDouble.ofInt 0))]
    let m : ValueUpdateMsg := ⟨19, 1, valueTypeUnsigned, PresentValue.zero, StatusFlags.cleared,
      false⟩
    let j : Json := .object [(lit "state_count", jsonInt 3)]
    let g : Gateway := ⟨⟨true, fun k => if k = (19, 1) then some (some j) else none, [(19, 1)],
      fun _ => none, none, [], []⟩,
      runOps (bacnetServerCreate ⟨1, [], [], [], 10, 10⟩)
        [.createObject 19 1 [] none (some (.unsigned 2)) 95 CFloat.zero 0], []⟩
    (objectOfJson 19 1 j).stateCount = 3 ∧
    (parseValueUpdate payload = .ok m ∧
      (m.objectType = objectMultiStateInput ∨ m.objectType = objectMultiStateOutput ∨
        m.objectType = objectMultiStateValue) ∧
      g.redis.connected = true ∧ g.redis.replies = [] ∧
      g.redis.objects (m.objectType, (m.objectInstance + 0) % 2 ^ 32) = some (some j) ∧
      (findObject g.server m.objectType ((m.objectInstance + 0) % 2 ^ 32)).isSome) ∧
    (messageHandlerProcessValueUpdate g m 0 5).2 = 0 ∧
      ∃ obj, findObject (messageHandlerProcessValueUpdate g m 0 5).1.server
          m.objectType ((m.objectInstance + 0) % 2 ^ 32) = some obj ∧
        obj.presentValue =
          .unsigned (castUInt32 (valueDouble (payload.getObjectItem (lit "presentValue")))) := by
  refine ⟨rfl, ⟨?hparse, ?hmulti, rfl, rfl, ?hj, ?hobj⟩,
    multiState_update_not_range_checked _ _ _ 0 5 _ ?hparse ?hmulti rfl rfl ?hj ?hobj⟩
  · rfl
  · decide
  · rfl
  · decide

set_option maxRecDepth 2000 in
/-- A multi-state value cached with three states is updated to 0 and holds 0. -/
theorem multiState_update_zero_applied :
    let payload : Json := .object [(lit "objectType", .string (lit "multi-state-value")),
      (lit "objectInstance", .number (CDouble.ofInt 1)),
      (lit "presentValue", .number (CDouble.ofInt 0))]
    let m : ValueUpdateMsg := ⟨19, 1, valueTypeUnsigned, PresentValue.zero, StatusFlags.cleared,
      false⟩
    let j : Json := .object [(lit "state_count", jsonInt 3)]
    let g : Gateway := ⟨⟨true, fun k => if k = (19, 1) then some (some j) else none, [(19, 1)],
      fun _ => none, none, [], []⟩,
      runOps (bacnetServerCreate ⟨1, [], [], [], 10, 10⟩)
        [.createObject 19 1 [] none (some (.unsigned 2)) 95 CFloat.zero 0], []⟩
    (objectOfJson 19 1 j).stateCount = 3 ∧ parseValueUpdate payload = .ok m ∧
      (messageHandlerProcessValueUpdate g m 0 5).2 = 0 ∧
      (findObject (messageHandlerProcessValueUpdate g m 0 5).1.server 19 1).map
        BacnetObjectInternal.presentValue = some (.unsigned 0) := by
  refine ⟨rfl, rfl, ?_, ?_⟩ <;> decide

set_option maxRecDepth 20000 in
/-- An analog input defined as `unsigned` gets `real` updates, which are accepted and
acknowledged. -/
theorem mismatched_update_kind_accepted :
    let definitionPayload : Json := .object [(lit "objectType", .string (lit "analog-input")),
      (lit "objectInstance", .number (CDouble.ofInt 1)), (lit "objectName", .string (lit "T")),
      (lit "presentValueType", .string (lit "unsigned"))]
    let updatePayload : Json := .object [(lit "objectType", .string (lit "analog-input")),
      (lit "objectInstance", .number (CDouble.ofInt 1)),
      (lit "presentValue", .number (CDouble.ofInt 21))]
    let event (kind : CStr) (payload : Json) (revision : Nat) : ReceivedEvent :=
      ⟨some (some (.object [(lit "messageType", .string kind),
        (lit "sourceId", .string (lit "s1")), (lit "payload", payload)])), lit "sub", revision⟩
    let g : Gateway := ⟨⟨true, fun _ => none, [], fun _ => none, none, [], []⟩,
      bacnetServerCreate ⟨1, [], [], [], 10, 10⟩, [⟨lit "sub", 0⟩]⟩
    (parseObjectDefinition definitionPayload).toOption.map ObjectDefinitionMsg.valueType =
        some valueTypeUnsigned ∧
      (parseValueUpdate updatePayload).toOption.map ValueUpdateMsg.valueType =
        some valueTypeReal ∧
      (onEvents g [(event (lit "ObjectDefinition") definitionPayload 10, 1),
        (event (lit "ValueUpdate") updatePayload 11, 2)]).2 = [true, true] := by
  decide

end BacnetEventServer
