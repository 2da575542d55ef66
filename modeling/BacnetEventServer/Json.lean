import BacnetEventServer.Numeric

namespace BacnetEventServer

/-- A C string: its bytes before the terminating NUL. -/
abbrev CStr := List UInt8

/-- The bytes of a string literal of the source. -/
def lit (s : String) : CStr := s.data.flatMap String.utf8EncodeChar

/-- `strncpy(dst, src, n)` into a zeroed buffer longer than `n`: the first `n` bytes. -/
def strncpy (n : Nat) (s : CStr) : CStr := s.take n

/-- A cJSON item as the code reads it. An object keeps its members in text order,
duplicate keys included. -/
inductive Json
  | null
  | bool (b : Bool)
  | number (x : CDouble)
  | string (s : CStr)
  | array (items : List Json)
  | object (members : List (CStr × Json))
  deriving Repr

namespace Json

/-- `cJSON_GetObjectItemCaseSensitive`: the first member named `key`; nothing unless the
item is an object (the children of an array have no names). -/
def getObjectItem : Json → CStr → Option Json
  | object ms, key => (ms.find? (·.1 == key)).map (·.2)
  | _, _ => none

def isNumber : Json → Bool
  | number _ => true
  | _ => false

def isString : Json → Bool
  | string _ => true
  | _ => false

def isBool : Json → Bool
  | bool _ => true
  | _ => false

def isTrue : Json → Bool
  | bool b => b
  | _ => false

def isObject : Json → Bool
  | object _ => true
  | _ => false

def isArray : Json → Bool
  | array _ => true
  | _ => false

end Json

/-- `cJSON_IsNumber(item)` for an item that may be missing. -/
def isNumberItem : Option Json → Bool
  | some j => j.isNumber
  | none => false

/-- `cJSON_IsTrue(item)` for an item that may be missing. -/
def isTrueItem : Option Json → Bool
  | some j => j.isTrue
  | none => false

/-- `cJSON_IsObject(item)` for an item that may be missing. -/
def isObjectItem : Option Json → Bool
  | some j => j.isObject
  | none => false

/-- `valuedouble` of a number item (cJSON leaves it `0` for other items). -/
def valueDouble : Option Json → CDouble
  | some (.number x) => x
  | _ => CDouble.ofInt 0

/-- The string of an item that `cJSON_IsString` accepts. -/
def valueString : Option Json → Option CStr
  | some (.string s) => some s
  | _ => none

/-- The elements of an array item. -/
def arrayItems : Option Json → List Json
  | some (.array items) => items
  | _ => []

end BacnetEventServer
