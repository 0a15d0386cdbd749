import Xrtc.Lib.Json

/-!
# `Xrtc.Sdk.XrtcJson`: the JSON wrapper

The model of `JsonValue::ToJson` and `JsonValue::FromJson` of
`xrtcsdk/xrtc/base/xrtc_json.cpp`. A `JsonValue` is its type with the field that belongs to it,
and a `JsonObject` is the list of its entries in the order of its `std::map`.

The JSON library is a parameter (`JsonCpp`): `FastWriter().write`, and `Reader().parse`, which
can return false or throw. Its two functions are inverse on its trees (`Json.InOrder`), but for
the type of an integer (`Json.normal`).

`FromJson` calls itself with a text that it has written, and how often it does so one call
inside the other is bounded here. `none` stands for too many calls.
-/

set_option autoImplicit false

namespace Xrtc.Sdk

open Xrtc.Lib

/-! ### The JSON library -/

/-- What `Reader().parse` does: it returns true with a value, it returns false, or it throws. -/
inductive ParseResult (D : Type) where
  | parsed (value : Json D)
  | failed
  | thrown

/-- The JSON library: its writer and its reader. -/
structure JsonCpp (D : Type) where
  write : Json D → Bytes
  parse : Bytes → ParseResult D
  parse_write : ∀ value, value.InOrder → ∃ value', parse (write value) = .parsed value' ∧
    value'.normal = value.normal

/-- `Json::Value::empty`. -/
def isEmptyValue {D : Type} : Json D → Bool
  | .null => true
  | .array values => values.isEmpty
  | .object members => members.isEmpty
  | _ => false

/-! ### Values -/

/-- `JsonValue`. -/
inductive JsonValue (D : Type) where
  | null
  | bool (b : Bool)
  | double (n : D)
  | string (s : Bytes)
  | array (values : List (JsonValue D))
  | object (values : List (Bytes × JsonValue D))
  | int (n : UInt64)
  | undefined

namespace JsonValue

variable {D : Type}

/-- `JsonValue(int)`. `ull_value_` is unsigned. -/
def ofInt (n : Int32) : JsonValue D := .int n.toInt64.toUInt64

/-- `JsonValue(long long)`. -/
def ofLongLong (n : Int64) : JsonValue D := .int n.toUInt64

/-- `JsonValue(unsigned long long)`. -/
def ofUnsignedLongLong (n : UInt64) : JsonValue D := .int n

/-! ### `ToJson` -/

mutual

/-- The lambda in `ToJson`. A value without elements stays null. -/
def toJsonValue : JsonValue D → Json D
  | .null => .null
  | .bool b => .bool b
  | .double n => .real n
  | .string s => .string s
  | .int n => .uint n
  | .undefined => .null
  | .array values => if values.isEmpty then .null else .array (toJsonValues values)
  | .object entries => if entries.isEmpty then .null else .object (toJsonMembers entries [])

/-- The elements of an array. -/
def toJsonValues : List (JsonValue D) → List (Json D)
  | [] => []
  | value :: values => value.toJsonValue :: toJsonValues values

/-- The entries of an object are put into the members one after the other. -/
def toJsonMembers : List (Bytes × JsonValue D) → List (Bytes × Json D) → List (Bytes × Json D)
  | [], members => members
  | (key, value) :: entries, members =>
      toJsonMembers entries (SortedMap.insert key value.toJsonValue members)

end

/-- `ToJson`. -/
def toJson (j : JsonCpp D) (v : JsonValue D) : Bytes :=
  let value := v.toJsonValue
  if isEmptyValue value then [] else j.write value

/-! ### `FromJson` -/

/-- What a member of an object is stored as, if it is. `fromJson` is the call for a text inside
a text, with a new value. -/
def ofMember (j : JsonCpp D) (fromJson : Bytes → Option (Bool × JsonValue D)) (item : Json D) :
    Option (Option (JsonValue D)) :=
  let nested := (fromJson (j.write item)).map fun (ok, value) => if ok then some value else none
  match item with
  | .null => some none
  | .int n => some (some (.ofLongLong n))
  | .uint n => some (some (.ofUnsignedLongLong n))
  | .real n => some (some (.double n))
  | .string s => some (some (.string s))
  | .bool b => some (some (.bool b))
  | .array _ => nested
  | .object _ => nested

/-- One round of the loop over the members. -/
def storeMember (j : JsonCpp D) (fromJson : Bytes → Option (Bool × JsonValue D))
    (objValues : List (Bytes × JsonValue D)) (member : Bytes × Json D) :
    Option (List (Bytes × JsonValue D)) :=
  (ofMember j fromJson member.2).map fun
    | some value => SortedMap.insert member.1 value objValues
    | none => objValues

/-- One round of the loop over the elements. What the call returns is not looked at. -/
def ofElement (j : JsonCpp D) (fromJson : Bytes → Option (Bool × JsonValue D)) (v : Json D) :
    Option (JsonValue D) :=
  (fromJson (j.write v)).map Prod.snd

/-- `FromJson` of a value: what it returns, and the value after it. -/
def fromJson (j : JsonCpp D) : Nat → JsonValue D → Bytes → Option (Bool × JsonValue D)
  | 0, _, _ => none
  | fuel + 1, self, json =>
      match j.parse json with
      | .thrown => some (false, self)
      | .failed => some (true, self)
      | .parsed (.object members) =>
          (members.foldlM (storeMember j (fromJson j fuel .null)) []).map fun objValues =>
            (true, .object objValues)
      | .parsed (.array values) =>
          (values.mapM (ofElement j (fromJson j fuel .null))).map fun values =>
            (true, .array values)
      -- the root is neither an object nor an array
      | .parsed _ => some (true, self)

end JsonValue

end Xrtc.Sdk
