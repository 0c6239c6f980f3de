import EventLoop.Decimal.Double
import EventLoop.Toml.DateTime

/-!
# Values of TOML

The seven types of values. A table keeps its entries in the order in which they were written.
-/

namespace EventLoop.Toml

/-- A value of TOML. -/
inductive Value where
  | string (text : String)
  | integer (i : Int64)
  | float (x : Double)
  | boolean (b : Bool)
  | dateTime (d : DateTime)
  | array (items : List Value)
  | table (entries : List (String × Value))

namespace Value

instance : Inhabited Value := ⟨table []⟩

/-- The name of a value's type. -/
def typeName : Value → String
  | string _ => "string"
  | integer _ => "integer"
  | float _ => "float"
  | boolean _ => "boolean"
  | dateTime _ => "datetime"
  | array _ => "array"
  | table _ => "table"

end Value

/-- The value under a key. -/
def lookup? (entries : List (String × Value)) (key : String) : Option Value :=
  (entries.find? fun e => e.1 = key).map Prod.snd

end EventLoop.Toml
