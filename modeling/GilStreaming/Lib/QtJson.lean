import GilStreaming.Lib.GoText

/-!
# GilStreaming.Lib.QtJson

The parts of Qt's JSON and string classes that a program needs to read a response.

A `QJsonObject` is the list of its members. Reading never fails: a member that is not
there, or is of another type, reads as a default value.
-/

namespace GilStreaming

/-- `QJsonValue`. A number is one that is integral, and fits. -/
inductive JsonValue
  | null
  | bool (b : Bool)
  | number (n : Int)
  | string (s : String)
  | array (items : List JsonValue)
  | object (members : List (String × JsonValue))

/-- `QJsonObject`, with every key once. -/
abbrev JsonObject := List (String × JsonValue)

/-- `QJsonObject::value`; `none` is `QJsonValue::Undefined`. -/
def JsonObject.value (o : JsonObject) (key : String) : Option JsonValue := List.lookup key o

/-- `o.value(key).toString(defaultValue)`. -/
def JsonObject.stringOr (o : JsonObject) (key defaultValue : String) : String :=
  match o.value key with
  | some (.string s) => s
  | _ => defaultValue

/-- `o.value(key).toString()`. -/
abbrev JsonObject.string (o : JsonObject) (key : String) : String := o.stringOr key ""

/-- `o.value(key).toInt()`. -/
def JsonObject.int (o : JsonObject) (key : String) : Int :=
  match o.value key with
  | some (.number n) => n
  | _ => 0

/-- `v.toInt()` of an item of an array. -/
def JsonValue.toInt : JsonValue → Int
  | .number n => n
  | _ => 0

/-- `o.value(key).toArray()`. -/
def JsonObject.array (o : JsonObject) (key : String) : List JsonValue :=
  match o.value key with
  | some (.array items) => items
  | _ => []

/-- `o.value(key).toObject()`. -/
def JsonObject.object (o : JsonObject) (key : String) : JsonObject :=
  match o.value key with
  | some (.object members) => members
  | _ => []

/-- `QString::trimmed`: `QChar::isSpace` and `unicode.IsSpace` agree. -/
def trimmed (s : String) : String := String.ofList (trimSpace s.toList)

end GilStreaming
