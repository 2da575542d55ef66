import BacnetEventServer.Types

namespace BacnetEventServer

/-- `get_string_safe` of message_handler.c: the member's string, else the default (which
may be `NULL`). -/
def getStringSafe (obj : Json) (key : CStr) (default : Option CStr) : Option CStr :=
  match valueString (obj.getObjectItem key) with
  | some s => some s
  | none => default

/-- `get_number_safe` of message_handler.c. -/
def getNumberSafe (obj : Json) (key : CStr) (default : CDouble) : CDouble :=
  if isNumberItem (obj.getObjectItem key) then valueDouble (obj.getObjectItem key) else default

/-- `get_bool_safe` of message_handler.c. -/
def getBoolSafe (obj : Json) (key : CStr) (default : Bool) : Bool :=
  match obj.getObjectItem key with
  | some j => if j.isBool then j.isTrue else default
  | none => default

/-- `message_type_t`. -/
inductive MessageType
  | unknown
  | objectDefinition
  | valueUpdate
  | objectDelete
  | deviceConfig
  deriving DecidableEq, Repr

def parseMessageType (s : CStr) : MessageType :=
  if s = lit "ObjectDefinition" then .objectDefinition
  else if s = lit "ValueUpdate" then .valueUpdate
  else if s = lit "ObjectDelete" then .objectDelete
  else if s = lit "DeviceConfig" then .deviceConfig
  else .unknown

def parseObjectType (s : CStr) : Int :=
  if s = lit "analog-input" then objectAnalogInput
  else if s = lit "analog-output" then objectAnalogOutput
  else if s = lit "analog-value" then objectAnalogValue
  else if s = lit "binary-input" then objectBinaryInput
  else if s = lit "binary-output" then objectBinaryOutput
  else if s = lit "binary-value" then objectBinaryValue
  else if s = lit "multi-state-input" then objectMultiStateInput
  else if s = lit "multi-state-output" then objectMultiStateOutput
  else if s = lit "multi-state-value" then objectMultiStateValue
  else -1

/-- Unknown names fall back to `VALUE_TYPE_REAL`. -/
def parseValueType (s : CStr) : Int :=
  if s = lit "real" then valueTypeReal
  else if s = lit "unsigned" then valueTypeUnsigned
  else if s = lit "signed" then valueTypeSigned
  else if s = lit "boolean" then valueTypeBoolean
  else if s = lit "enumerated" then valueTypeEnumerated
  else valueTypeReal

/-- A required field: its value, or the error code the parser returns. -/
def required {α : Type} (x : Option α) (e : ParseResult) : Except ParseResult α :=
  match x with
  | some a => .ok a
  | none => .error e

/-- The required `objectType` and `objectInstance` every payload starts with. -/
def parseObjectId (payload : Json) : Except ParseResult (Int × Nat) := do
  let str ← required (getStringSafe payload (lit "objectType") none) .errorMissingField
  let objectType := parseObjectType str
  if objectType < 0 then throw .errorInvalidValue
  let item := payload.getObjectItem (lit "objectInstance")
  if !isNumberItem item then throw .errorMissingField
  return (objectType, castUInt32 (valueDouble item))

/-- The 16 rows `state_texts` gets from a `stateTexts` array: at most 16 entries, each
string cut to 63 bytes, non-strings left empty. -/
def stateTextRows (items : List Json) : List CStr :=
  (List.range 16).map fun i =>
    if i < min items.length 16 then
      match items[i]? with
      | some (.string s) => strncpy 63 s
      | _ => []
    else []

/-- How `initialValue` fills the union, by the definition's value type. -/
def initialValueOf (valueType : Int) (item : Json) : PresentValue :=
  match item with
  | .number d =>
    if valueType = valueTypeReal then PresentValue.zero.setReal (CFloat.ofDouble d)
    else if valueType = valueTypeSigned then PresentValue.zero.setSigned (castInt32 d)
    else PresentValue.zero.setUnsigned (castUInt32 d)
  | .bool b => PresentValue.zero.setBoolean b
  | _ => PresentValue.zero

def parseObjectDefinition (payload : Json) : Except ParseResult ObjectDefinitionMsg := do
  let (objectType, objectInstance) ← parseObjectId payload
  let name ← required (getStringSafe payload (lit "objectName") none) .errorMissingField
  let pvt ← required (getStringSafe payload (lit "presentValueType") none) .errorMissingField
  let valueType := parseValueType pvt
  let states := payload.getObjectItem (lit "stateTexts")
  let initial := payload.getObjectItem (lit "initialValue")
  return {
    objectType, objectInstance, valueType
    objectName := strncpy 255 name
    description := strncpy 511 ((getStringSafe payload (lit "description") (some [])).getD [])
    units := castUInt32 (getNumberSafe payload (lit "units") (CDouble.ofInt 95))
    unitsText := strncpy 63 ((getStringSafe payload (lit "unitsText") (some [])).getD [])
    covIncrement := CFloat.ofDouble (getNumberSafe payload (lit "covIncrement") (CDouble.ofInt 0))
    minValue := CFloat.ofDouble (getNumberSafe payload (lit "minPresentValue") (CDouble.ofInt 0))
    maxValue := CFloat.ofDouble (getNumberSafe payload (lit "maxPresentValue") (CDouble.ofInt 0))
    stateTexts := if (states.map Json.isArray).getD false then stateTextRows (arrayItems states)
      else List.replicate 16 []
    stateCount := if (states.map Json.isArray).getD false then min (arrayItems states).length 16
      else 0
    inactiveText :=
      strncpy 63 ((getStringSafe payload (lit "inactiveText") (some (lit "Inactive"))).getD [])
    activeText :=
      strncpy 63 ((getStringSafe payload (lit "activeText") (some (lit "Active"))).getD [])
    supportsPriorityArray := getBoolSafe payload (lit "priorityArray") false
    hasInitialValue := initial.isSome
    initialValue := (initial.map (initialValueOf valueType)).getD PresentValue.zero }

/-- The union member `parse_value_update` writes, chosen by the object type. -/
def presentValueOf (objectType : Int) (item : Json) : Int × PresentValue :=
  if objectType = objectBinaryInput ∨ objectType = objectBinaryOutput ∨
      objectType = objectBinaryValue then
    (valueTypeBoolean, PresentValue.zero.setBoolean
      (item.isTrue || (item.isNumber && (valueDouble (some item)).num != 0)))
  else if objectType = objectMultiStateInput ∨ objectType = objectMultiStateOutput ∨
      objectType = objectMultiStateValue then
    (valueTypeUnsigned, PresentValue.zero.setUnsigned (castUInt32 (valueDouble (some item))))
  else (valueTypeReal, PresentValue.zero.setReal (CFloat.ofDouble (valueDouble (some item))))

def flagsOf (item : Json) : StatusFlags :=
  ⟨getBoolSafe item (lit "inAlarm") false, getBoolSafe item (lit "fault") false,
    getBoolSafe item (lit "overridden") false, getBoolSafe item (lit "outOfService") false⟩

def parseValueUpdate (payload : Json) : Except ParseResult ValueUpdateMsg := do
  let (objectType, objectInstance) ← parseObjectId payload
  let item ← required (payload.getObjectItem (lit "presentValue")) .errorMissingField
  let (valueType, presentValue) := presentValueOf objectType item
  let flags := payload.getObjectItem (lit "statusFlags")
  return {
    objectType, objectInstance, valueType, presentValue
    statusFlags := if isObjectItem flags then (flags.map flagsOf).getD StatusFlags.cleared
      else StatusFlags.cleared
    hasStatusFlags := isObjectItem flags }

def parseObjectDelete (payload : Json) : Except ParseResult ObjectDeleteMsg := do
  let (objectType, objectInstance) ← parseObjectId payload
  return { objectType, objectInstance
           reason := strncpy 255 ((getStringSafe payload (lit "reason") (some [])).getD []) }

def parseDeviceConfig (payload : Json) : Except ParseResult DeviceConfigMsg :=
  .ok { deviceName := (getStringSafe payload (lit "deviceName") none).map (strncpy 255)
        deviceDescription :=
          (getStringSafe payload (lit "deviceDescription") none).map (strncpy 511)
        location := (getStringSafe payload (lit "location") none).map (strncpy 255) }

/-- `message_handler_parse`, given what `cJSON_ParseWithLength` made of the bytes
(`none`: not JSON). -/
def messageHandlerParse (doc : Option Json) : Except ParseResult ParsedMessage := do
  let root ← required doc .errorInvalidJson
  let str ← required (getStringSafe root (lit "messageType") none) .errorMissingField
  let type := parseMessageType str
  if type = .unknown then throw .errorUnknownMessageType
  let sid ← required (getStringSafe root (lit "sourceId") none) .errorMissingField
  let streamPosition := castUInt64 (getNumberSafe root (lit "streamPosition") (CDouble.ofInt 0))
  let payload ← required ((root.getObjectItem (lit "payload")).filter Json.isObject)
    .errorMissingField
  let body ← match type with
    | .objectDefinition => ParsedPayload.objectDefinition <$> parseObjectDefinition payload
    | .valueUpdate => ParsedPayload.valueUpdate <$> parseValueUpdate payload
    | .objectDelete => ParsedPayload.objectDelete <$> parseObjectDelete payload
    | .deviceConfig => ParsedPayload.deviceConfig <$> parseDeviceConfig payload
    | .unknown => throw .errorUnknownMessageType
  return { sourceId := strncpy 127 sid, streamPosition, payload := body }

end BacnetEventServer
