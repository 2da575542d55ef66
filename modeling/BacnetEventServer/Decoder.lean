import BacnetEventServer.Parse

namespace BacnetEventServer

def messageTypeNames : List CStr :=
  [lit "ObjectDefinition", lit "ValueUpdate", lit "ObjectDelete", lit "DeviceConfig"]

def objectTypeNames : List CStr :=
  [lit "analog-input", lit "analog-output", lit "analog-value", lit "binary-input",
    lit "binary-output", lit "binary-value", lit "multi-state-input", lit "multi-state-output",
    lit "multi-state-value"]

/-- A member holding a string. -/
def hasString (obj : Json) (key : CStr) : Bool := (valueString (obj.getObjectItem key)).isSome

/-- The object a payload names: an object type name and a JSON number, of any value. -/
def namesObject (payload : Json) : Bool :=
  (valueString (payload.getObjectItem (lit "objectType"))).any
      (fun s => decide (s ∈ objectTypeNames)) &&
    isNumberItem (payload.getObjectItem (lit "objectInstance"))

/-- The payload fields each message type requires; `presentValue` may be of any JSON type. -/
def payloadAccepted (type : CStr) (payload : Json) : Bool :=
  if type = lit "ObjectDefinition" then
    namesObject payload && hasString payload (lit "objectName") &&
      hasString payload (lit "presentValueType")
  else if type = lit "ValueUpdate" then
    namesObject payload && (payload.getObjectItem (lit "presentValue")).isSome
  else if type = lit "ObjectDelete" then namesObject payload
  else type = lit "DeviceConfig"

/-- The documents the decoder accepts: a `messageType` string, a `sourceId` string, a
`payload` object, and the payload fields of the type. -/
def decoderAccepts : Option Json → Bool
  | none => false
  | some root =>
    match valueString (root.getObjectItem (lit "messageType")),
        valueString (root.getObjectItem (lit "sourceId")), root.getObjectItem (lit "payload") with
    | some type, some _, some payload => payload.isObject && payloadAccepted type payload
    | _, _, _ => false

theorem getStringSafe_none (obj : Json) (key : CStr) :
    getStringSafe obj key none = valueString (obj.getObjectItem key) := by
  unfold getStringSafe
  split <;> simp_all

theorem parseObjectType_neg_iff (s : CStr) : parseObjectType s < 0 ↔ s ∉ objectTypeNames := by
  by_cases hs : s ∈ objectTypeNames
  · simp only [objectTypeNames, List.mem_cons, List.not_mem_nil, or_false] at hs
    rcases hs with rfl | rfl | rfl | rfl | rfl | rfl | rfl | rfl | rfl <;> decide
  · simp only [objectTypeNames, List.mem_cons, List.not_mem_nil, or_false, not_or] at hs
    obtain ⟨h1, h2, h3, h4, h5, h6, h7, h8, h9⟩ := hs
    simp only [parseObjectType, h1, h2, h3, h4, h5, h6, h7, h8, h9, if_false, objectTypeNames,
      List.mem_cons, List.not_mem_nil, or_false, not_or]
    decide

theorem parseObjectId_eq (payload : Json) :
    parseObjectId payload =
      match valueString (payload.getObjectItem (lit "objectType")) with
      | none => .error .errorMissingField
      | some s =>
        if parseObjectType s < 0 then .error .errorInvalidValue
        else if isNumberItem (payload.getObjectItem (lit "objectInstance")) then
          .ok (parseObjectType s,
            castUInt32 (valueDouble (payload.getObjectItem (lit "objectInstance"))))
        else .error .errorMissingField := by
  unfold parseObjectId
  rw [getStringSafe_none]
  cases valueString (payload.getObjectItem (lit "objectType")) with
  | none => rfl
  | some s =>
    simp only [required, bind, Except.bind]
    split_ifs <;> simp_all [pure, Except.pure]

theorem toOption_bind {ε α β : Type} (x : Except ε α) (f : α → Except ε β) :
    (x >>= f).toOption = x.toOption.bind (fun a => (f a).toOption) := by
  cases x <;> rfl

theorem toOption_throw {α : Type} (e : ParseResult) :
    (throw e : Except ParseResult α).toOption = none := rfl

theorem toOption_pure {α : Type} (a : α) :
    (pure a : Except ParseResult α).toOption = some a := rfl

theorem toOption_required {α : Type} (x : Option α) (e : ParseResult) :
    (required x e).toOption = x := by
  cases x <;> rfl

theorem parseObjectId_isSome (payload : Json) :
    (parseObjectId payload).toOption.isSome = namesObject payload := by
  unfold parseObjectId namesObject
  simp only [toOption_bind, toOption_required, getStringSafe_none]
  cases valueString (payload.getObjectItem (lit "objectType")) with
  | none => rfl
  | some s =>
    by_cases hneg : parseObjectType s < 0
    · have := (parseObjectType_neg_iff s).mp hneg
      simp [hneg, this]
      rfl
    · have := not_not.mp ((parseObjectType_neg_iff s).not.mp hneg)
      cases hnum : isNumberItem (payload.getObjectItem (lit "objectInstance")) <;>
        simp [hneg, this, hnum] <;> rfl

theorem parseObjectDefinition_isSome (payload : Json) :
    (parseObjectDefinition payload).toOption.isSome =
      (namesObject payload && hasString payload (lit "objectName") &&
        hasString payload (lit "presentValueType")) := by
  unfold parseObjectDefinition hasString
  simp only [toOption_bind, toOption_required, getStringSafe_none, ← parseObjectId_isSome]
  cases (parseObjectId payload).toOption <;>
    cases valueString (payload.getObjectItem (lit "objectName")) <;>
    cases valueString (payload.getObjectItem (lit "presentValueType")) <;> rfl

theorem parseValueUpdate_isSome (payload : Json) :
    (parseValueUpdate payload).toOption.isSome =
      (namesObject payload && (payload.getObjectItem (lit "presentValue")).isSome) := by
  unfold parseValueUpdate
  simp only [toOption_bind, toOption_required, ← parseObjectId_isSome]
  cases (parseObjectId payload).toOption <;>
    cases payload.getObjectItem (lit "presentValue") <;> rfl

theorem parseObjectDelete_isSome (payload : Json) :
    (parseObjectDelete payload).toOption.isSome = namesObject payload := by
  unfold parseObjectDelete
  simp only [toOption_bind, ← parseObjectId_isSome]
  cases (parseObjectId payload).toOption <;> rfl

theorem parseMessageType_of_not_mem {s : CStr} (hs : s ∉ messageTypeNames) :
    parseMessageType s = .unknown := by
  simp only [messageTypeNames, List.mem_cons, List.not_mem_nil, or_false, not_or] at hs
  simp only [parseMessageType, hs.1, hs.2.1, hs.2.2.1, hs.2.2.2, if_false]

theorem payloadAccepted_of_not_mem {s : CStr} (hs : s ∉ messageTypeNames) (payload : Json) :
    payloadAccepted s payload = false := by
  simp only [messageTypeNames, List.mem_cons, List.not_mem_nil, or_false, not_or] at hs
  simp only [payloadAccepted, hs.1, hs.2.1, hs.2.2.1, hs.2.2.2, if_false, decide_False]

theorem toOption_map {α β : Type} (f : α → β) (x : Except ParseResult α) :
    (f <$> x).toOption = x.toOption.map f := by
  cases x <;> rfl

theorem isSome_bind_some {α β : Type} (o : Option α) (f : α → β) :
    (o.bind fun a => some (f a)).isSome = o.isSome := by
  cases o <;> rfl

theorem parseMessageType_names :
    parseMessageType (lit "ObjectDefinition") = .objectDefinition ∧
    parseMessageType (lit "ValueUpdate") = .valueUpdate ∧
    parseMessageType (lit "ObjectDelete") = .objectDelete ∧
    parseMessageType (lit "DeviceConfig") = .deviceConfig := by
  decide

theorem payloadAccepted_names (payload : Json) :
    payloadAccepted (lit "ObjectDefinition") payload =
      (namesObject payload && hasString payload (lit "objectName") &&
        hasString payload (lit "presentValueType")) ∧
    payloadAccepted (lit "ValueUpdate") payload =
      (namesObject payload && (payload.getObjectItem (lit "presentValue")).isSome) ∧
    payloadAccepted (lit "ObjectDelete") payload = namesObject payload ∧
    payloadAccepted (lit "DeviceConfig") payload = true :=
  ⟨rfl, rfl, rfl, rfl⟩

theorem messageHandlerParse_isSome (doc : Option Json) :
    (messageHandlerParse doc).toOption.isSome = decoderAccepts doc := by
  cases doc with
  | none => rfl
  | some root =>
    unfold messageHandlerParse decoderAccepts
    simp only [toOption_bind, toOption_required, getStringSafe_none, Option.some_bind,
      apply_ite Except.toOption, toOption_throw, toOption_pure, Option.none_bind]
    cases valueString (root.getObjectItem (lit "messageType")) with
    | none => rfl
    | some s =>
      simp only [Option.some_bind]
      by_cases hs : s ∈ messageTypeNames
      · obtain ⟨hdef, hupd, hdel, hdev⟩ := parseMessageType_names
        simp only [messageTypeNames, List.mem_cons, List.not_mem_nil, or_false] at hs
        rcases hs with rfl | rfl | rfl | rfl <;>
        simp only [hdef, hupd, hdel, hdev, reduceCtorEq, if_false] <;>
        cases valueString (root.getObjectItem (lit "sourceId")) <;>
        cases root.getObjectItem (lit "payload") <;>
        simp only [Option.none_bind, Option.some_bind, Option.isSome_none, Option.filter_some,
          Option.filter_none, Bool.false_and] <;>
        rename_i payload <;>
        cases payload.isObject <;>
        simp only [↓reduceIte, Bool.false_eq_true, Bool.true_and, Bool.false_and,
          Option.none_bind, Option.isSome_none, Option.some_bind, toOption_bind, toOption_map,
          toOption_pure,
          isSome_bind_some, Option.isSome_map', parseObjectDefinition_isSome,
          parseValueUpdate_isSome, parseObjectDelete_isSome] <;>
        rfl
      · simp only [parseMessageType_of_not_mem hs, if_true, Option.isSome_none]
        cases valueString (root.getObjectItem (lit "sourceId")) <;>
          cases root.getObjectItem (lit "payload") <;> simp [payloadAccepted_of_not_mem hs]

/-- Every error `r` can end with is one of `codes`. -/
def ErrorsIn {α : Type} (codes : List ParseResult) (r : Except ParseResult α) : Prop :=
  ∀ e, r = .error e → e ∈ codes

namespace ErrorsIn

variable {α β : Type} {codes : List ParseResult}

theorem pure (a : α) : ErrorsIn codes (Pure.pure a : Except ParseResult α) :=
  fun _ h => nomatch h

theorem throw {e : ParseResult} (h : e ∈ codes) :
    ErrorsIn codes (MonadExcept.throw e : Except ParseResult α) := by
  intro _ he
  cases he
  exact h

theorem bind {x : Except ParseResult α} {f : α → Except ParseResult β} (hx : ErrorsIn codes x)
    (hf : ∀ a, ErrorsIn codes (f a)) : ErrorsIn codes (x >>= f) := by
  intro e h
  cases x with
  | error e' => cases h; exact hx _ rfl
  | ok a => exact hf a e h

theorem map {x : Except ParseResult α} (f : α → β) (hx : ErrorsIn codes x) :
    ErrorsIn codes (f <$> x) := by
  intro e h
  cases x with
  | error e' => cases h; exact hx _ rfl
  | ok a => cases h

theorem required {x : Option α} {e : ParseResult} (h : e ∈ codes) :
    ErrorsIn codes (BacnetEventServer.required x e) := by
  cases x with
  | none => exact throw h
  | some a => exact pure a

theorem ite {p : Prop} [Decidable p] {x y : Except ParseResult α} (hx : ErrorsIn codes x)
    (hy : ErrorsIn codes y) : ErrorsIn codes (if p then x else y) := by
  split
  · exact hx
  · exact hy

theorem mono {codes' : List ParseResult} {r : Except ParseResult α} (h : ErrorsIn codes r)
    (hsub : codes ⊆ codes') : ErrorsIn codes' r :=
  fun e he => hsub (h e he)

end ErrorsIn

def objectErrors : List ParseResult := [.errorMissingField, .errorInvalidValue]

theorem parseObjectId_errors (payload : Json) : ErrorsIn objectErrors (parseObjectId payload) := by
  rw [parseObjectId_eq]
  split
  · exact ErrorsIn.throw (by decide)
  · split_ifs
    · exact ErrorsIn.throw (by decide)
    · exact ErrorsIn.pure _
    · exact ErrorsIn.throw (by decide)

theorem parseObjectDefinition_errors (payload : Json) :
    ErrorsIn objectErrors (parseObjectDefinition payload) := by
  unfold parseObjectDefinition
  refine ErrorsIn.bind (parseObjectId_errors payload) fun ⟨_, _⟩ => ?_
  refine ErrorsIn.bind (ErrorsIn.required (by decide)) fun _ => ?_
  refine ErrorsIn.bind (ErrorsIn.required (by decide)) fun _ => ?_
  exact ErrorsIn.pure _

theorem parseValueUpdate_errors (payload : Json) :
    ErrorsIn objectErrors (parseValueUpdate payload) := by
  unfold parseValueUpdate
  refine ErrorsIn.bind (parseObjectId_errors payload) fun ⟨_, _⟩ => ?_
  refine ErrorsIn.bind (ErrorsIn.required (by decide)) fun _ => ?_
  exact ErrorsIn.pure _

theorem parseObjectDelete_errors (payload : Json) :
    ErrorsIn objectErrors (parseObjectDelete payload) := by
  unfold parseObjectDelete
  refine ErrorsIn.bind (parseObjectId_errors payload) fun ⟨_, _⟩ => ?_
  exact ErrorsIn.pure _

def decoderErrors : List ParseResult :=
  [.errorInvalidJson, .errorMissingField, .errorInvalidValue, .errorUnknownMessageType]

theorem messageHandlerParse_errors (doc : Option Json) :
    ErrorsIn decoderErrors (messageHandlerParse doc) := by
  have hobject : objectErrors ⊆ decoderErrors := by decide
  unfold messageHandlerParse
  refine ErrorsIn.bind (ErrorsIn.required (by decide)) fun root => ?_
  refine ErrorsIn.bind (ErrorsIn.required (by decide)) fun str => ?_
  refine ErrorsIn.ite (ErrorsIn.bind (ErrorsIn.throw (by decide)) fun _ => ?_)
    (ErrorsIn.bind (ErrorsIn.pure _) fun _ => ?_) <;>
  refine ErrorsIn.bind (ErrorsIn.required (by decide)) fun sid => ?_ <;>
  refine ErrorsIn.bind (ErrorsIn.required (by decide)) fun payload => ?_ <;>
  dsimp only <;>
  split <;>
  refine ErrorsIn.bind ?_ fun _ => ErrorsIn.pure _
  all_goals first
    | exact ((parseObjectDefinition_errors _).map _).mono hobject
    | exact ((parseValueUpdate_errors _).map _).mono hobject
    | exact ((parseObjectDelete_errors _).map _).mono hobject
    | exact (ErrorsIn.pure _).map _
    | exact ErrorsIn.throw (by decide)

/-- `message_handler_parse` accepts exactly the documents `decoderAccepts` describes, and answers
every other one with one of four of the five error codes. -/
theorem decoder_accepted_language (doc : Option Json) :
    (messageHandlerParse doc).toOption.isSome = decoderAccepts doc ∧
      ∀ e, messageHandlerParse doc = .error e → e ∈ decoderErrors :=
  ⟨messageHandlerParse_isSome doc, messageHandlerParse_errors doc⟩

set_option maxRecDepth 2000 in
/-- An `objectInstance` of 1.5 and a string `presentValue` are accepted; an `objectInstance`
given as a string is answered with `PARSE_ERROR_MISSING_FIELD`. -/
theorem decoder_accepts_fraction_and_string_value :
    let update (objectInstance presentValue : Json) : Option Json := some (.object
      [(lit "messageType", .string (lit "ValueUpdate")), (lit "sourceId", .string (lit "s1")),
        (lit "payload", .object [(lit "objectType", .string (lit "analog-input")),
          (lit "objectInstance", objectInstance), (lit "presentValue", presentValue)])])
    (messageHandlerParse (update (.number ⟨3, 2, by decide⟩) (.number (CDouble.ofInt 20)))
      ).toOption.isSome = true ∧
    (messageHandlerParse (update (.number (CDouble.ofInt 1)) (.string (lit "hot")))
      ).toOption.isSome = true ∧
    messageHandlerParse (update (.string (lit "1")) (.number (CDouble.ofInt 20))) =
      .error .errorMissingField :=
  ⟨rfl, rfl, rfl⟩

end BacnetEventServer
