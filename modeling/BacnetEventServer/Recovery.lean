import BacnetEventServer.Registry

namespace BacnetEventServer

set_option maxRecDepth 20000 in
/-- An analog input defined with `covIncrement` 1e-7 is stored and acknowledged; after a
restart the registry is rebuilt from the cache with an increment of 0. -/
theorem recovered_cov_increment_differs :
    let g : Gateway := ⟨⟨true, fun _ => none, [], fun _ => none, none, [], []⟩,
      bacnetServerCreate ⟨1, [], [], [], 10, 10⟩, [⟨lit "sub", 0⟩]⟩
    let definition : ReceivedEvent := ⟨some (some (.object
      [(lit "messageType", .string (lit "ObjectDefinition")), (lit "sourceId", .string (lit "s1")),
        (lit "payload", .object [(lit "objectType", .string (lit "analog-input")),
          (lit "objectInstance", .number (CDouble.ofInt 1)),
          (lit "objectName", .string (lit "T")),
          (lit "presentValueType", .string (lit "real")),
          (lit "covIncrement", .number ⟨1, 10 ^ 7, by decide⟩)])])), lit "sub", 10⟩
    let before := (onEventReceived g definition 1).1
    let after := (recoverFromCache { before with server := bacnetServerCreate g.server.config } 2).1
    (onEventReceived g definition 1).2 = true ∧
      before.server.objects.map BacnetObjectInternal.covIncrement = [⟨0x33D6BF95⟩] ∧
      after.server.objects.map BacnetObjectInternal.covIncrement = [⟨0⟩] := by
  intro g definition
  have hdef : definition.message = some ⟨lit "s1", 0, .objectDefinition ⟨0, 1, lit "T", [],
      valueTypeReal, 95, [], ⟨0x33D6BF95⟩, CFloat.zero, CFloat.zero, List.replicate 16 [], 0,
      lit "Inactive", lit "Active", false, false, PresentValue.zero⟩⟩ := by
    decide
  have h0 : (messageHandlerProcess g ⟨lit "s1", 0, .objectDefinition ⟨0, 1, lit "T", [],
      valueTypeReal, 95, [], ⟨0x33D6BF95⟩, CFloat.zero, CFloat.zero, List.replicate 16 [], 0,
      lit "Inactive", lit "Active", false, false, PresentValue.zero⟩⟩
      (instanceOffsetOf g.subscriptions definition.subscriptionId) 1).2 = 0 := by
    decide
  have hoff : instanceOffsetOf g.subscriptions definition.subscriptionId = 0 := by decide
  dsimp only
  rw [onEventReceived_of_eq_zero hdef h0, hoff]
  decide

end BacnetEventServer
