import BacnetEventServer.Json

namespace BacnetEventServer

/-- `OBJECT_ANALOG_INPUT`. `bacnet_object_type_t` and `value_type_t` are C enums whose
variables hold any `int`, so both are kept as `Int` and named by these constants. -/
def objectAnalogInput : Int := 0
def objectAnalogOutput : Int := 1
def objectAnalogValue : Int := 2
def objectBinaryInput : Int := 3
def objectBinaryOutput : Int := 4
def objectBinaryValue : Int := 5
def objectMultiStateInput : Int := 13
def objectMultiStateOutput : Int := 14
def objectMultiStateValue : Int := 19
def objectTypeMax : Int := 20

def valueTypeReal : Int := 0
def valueTypeUnsigned : Int := 1
def valueTypeSigned : Int := 2
def valueTypeBoolean : Int := 3
def valueTypeEnumerated : Int := 4

/-- `status_flags_t`. -/
structure StatusFlags where
  inAlarm : Bool
  fault : Bool
  overridden : Bool
  outOfService : Bool
  deriving DecidableEq, Repr

def StatusFlags.cleared : StatusFlags := ⟨false, false, false, false⟩

/-- The union `present_value` (also `initial_value` of the messages): its four bytes as one
little-endian word, so `boolean_value` is the low byte and the other members the whole
word. -/
structure PresentValue where
  word : UInt32
  deriving DecidableEq, Repr

namespace PresentValue

def zero : PresentValue := ⟨0⟩

def realValue (p : PresentValue) : CFloat := ⟨p.word⟩

def unsignedValue (p : PresentValue) : Nat := p.word.toNat

def signedValue (p : PresentValue) : Int :=
  if p.word.toNat < 2 ^ 31 then p.word.toNat else (p.word.toNat : Int) - 2 ^ 32

/-- Reading a `bool` whose byte is neither 0 nor 1 is undefined; the compiled test is
`!= 0`. -/
def booleanValue (p : PresentValue) : Bool := p.word.toNat % 256 != 0

def setReal (_ : PresentValue) (f : CFloat) : PresentValue := ⟨f.bits⟩

def setUnsigned (_ : PresentValue) (n : Nat) : PresentValue := ⟨UInt32.ofNat n⟩

def setSigned (_ : PresentValue) (i : Int) : PresentValue := ⟨UInt32.ofNat (i % 2 ^ 32).toNat⟩

/-- Writing `boolean_value` replaces the low byte only. -/
def setBoolean (p : PresentValue) (b : Bool) : PresentValue :=
  ⟨UInt32.ofNat (p.word.toNat / 256 * 256 + if b then 1 else 0)⟩

end PresentValue

/-- `cached_object_t`, the record the cache stores. `stateTexts` holds the 16 rows of
`state_texts[16][64]`. -/
structure CachedObject where
  objectType : Int
  objectInstance : Nat
  objectName : CStr
  description : CStr
  valueType : Int
  units : Nat
  unitsText : CStr
  covIncrement : CFloat
  minValue : CFloat
  maxValue : CFloat
  stateTexts : List CStr
  stateCount : Int
  inactiveText : CStr
  activeText : CStr
  supportsPriorityArray : Bool
  presentValue : PresentValue
  statusFlags : StatusFlags
  reliability : Nat
  eventState : Nat
  lastUpdate : Int
  sourceId : CStr
  streamPosition : Nat
  deriving DecidableEq, Repr

/-- A `cached_object_t` after `memset(&obj, 0, sizeof(obj))`. -/
def CachedObject.zero : CachedObject where
  objectType := 0
  objectInstance := 0
  objectName := []
  description := []
  valueType := 0
  units := 0
  unitsText := []
  covIncrement := CFloat.zero
  minValue := CFloat.zero
  maxValue := CFloat.zero
  stateTexts := List.replicate 16 []
  stateCount := 0
  inactiveText := []
  activeText := []
  supportsPriorityArray := false
  presentValue := PresentValue.zero
  statusFlags := StatusFlags.cleared
  reliability := 0
  eventState := 0
  lastUpdate := 0
  sourceId := []
  streamPosition := 0

/-- `object_definition_msg_t`. The fields of message_handler.h's messages that nothing
downstream reads are left out. -/
structure ObjectDefinitionMsg where
  objectType : Int
  objectInstance : Nat
  objectName : CStr
  description : CStr
  valueType : Int
  units : Nat
  unitsText : CStr
  covIncrement : CFloat
  minValue : CFloat
  maxValue : CFloat
  stateTexts : List CStr
  stateCount : Int
  inactiveText : CStr
  activeText : CStr
  supportsPriorityArray : Bool
  hasInitialValue : Bool
  initialValue : PresentValue
  deriving DecidableEq, Repr

/-- `value_update_msg_t`. -/
structure ValueUpdateMsg where
  objectType : Int
  objectInstance : Nat
  valueType : Int
  presentValue : PresentValue
  statusFlags : StatusFlags
  hasStatusFlags : Bool
  deriving DecidableEq, Repr

/-- `object_delete_msg_t`. -/
structure ObjectDeleteMsg where
  objectType : Int
  objectInstance : Nat
  reason : CStr
  deriving DecidableEq, Repr

/-- `device_config_msg_t`, the three fields the device update uses. -/
structure DeviceConfigMsg where
  deviceName : Option CStr
  deviceDescription : Option CStr
  location : Option CStr
  deriving DecidableEq, Repr

/-- The `payload` union of `parsed_message_t`, tagged by its `type`. -/
inductive ParsedPayload
  | objectDefinition (m : ObjectDefinitionMsg)
  | valueUpdate (m : ValueUpdateMsg)
  | objectDelete (m : ObjectDeleteMsg)
  | deviceConfig (m : DeviceConfigMsg)
  deriving DecidableEq, Repr

/-- `parsed_message_t`. -/
structure ParsedMessage where
  sourceId : CStr
  streamPosition : Nat
  payload : ParsedPayload
  deriving DecidableEq, Repr

/-- `parse_result_t`. -/
inductive ParseResult
  | ok
  | errorInvalidJson
  | errorMissingField
  | errorInvalidType
  | errorInvalidValue
  | errorUnknownMessageType
  deriving DecidableEq, Repr

end BacnetEventServer
