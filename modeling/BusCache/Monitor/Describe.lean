import BusCache.Decimal.Shortest
import BusCache.Event
import BusCache.Text.Quoted

/-!
# Descriptions — events in one line

A description gives the kind and the path of an event and then what it carries. Values are shown
with their tags, doubles by the shortest decimal that reads back, texts in quotes, dictionaries in
the order of their keys.
-/

namespace BusCache

/-- Doubles are shown with a point from 0.0001 on and below 10 ^ 16, and with an exponent
otherwise. -/
def Decimal.Layout.description : Decimal.Layout where
  plainFrom := -4
  plainBelow := 16
  nan := "NaN"
  infinity := "inf"

/-- A tag and what it is put on. -/
def tagged (tag body : String) : String := tag ++ "(" ++ body ++ ")"

namespace Scalar

def describe : Scalar → String
  | bool b => tagged "Bool" (if b then "true" else "false")
  | byte n => tagged "Byte" (toString n.toNat)
  | int16 n => tagged "Int16" (toString n.toInt)
  | uint16 n => tagged "UInt16" (toString n.toNat)
  | int32 n => tagged "Int32" (toString n.toInt)
  | uint32 n => tagged "UInt32" (toString n.toNat)
  | int64 n => tagged "Int64" (toString n.toInt)
  | uint64 n => tagged "UInt64" (toString n.toNat)
  | double d => tagged "Double" (Decimal.Layout.description.write d)

end Scalar

namespace Value

mutual

def describe : Value → String
  | scalar s => s.describe
  | string s => tagged "Str" (Text.quoted s)
  | objectPath p => tagged "ObjectPath" (Text.quoted p)
  | array items => tagged "Array" ("[" ++ ", ".intercalate (describeItems items) ++ "]")
  | dict entries =>
      tagged "Dict" ("\x7b" ++ ", ".intercalate (describeEntries entries) ++ "\x7d")

def describeItems : List Value → List String
  | [] => []
  | v :: vs => describe v :: describeItems vs

def describeEntries : List (String × Value) → List String
  | [] => []
  | (k, v) :: es => (Text.quoted k ++ ": " ++ describe v) :: describeEntries es

end

end Value

def Payload.describe : Payload → String
  | .none => ""
  | .owner name => " owned by " ++ name
  | .snapshot properties => " [" ++ ", ".intercalate (Table.keys properties) ++ "]"
  | .changed key (some value) => " " ++ key ++ " = " ++ value.describe
  | .changed key Option.none => " " ++ key ++ " invalidated"
  | .signal member args =>
      " " ++ member ++ "[" ++ ", ".intercalate (Value.describeItems args) ++ "]"

def Event.describe (e : Event) : String := e.kind.name ++ " " ++ e.path ++ e.payload.describe

end BusCache
