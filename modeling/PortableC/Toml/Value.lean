import PortableC.Decimal.Shortest
import PortableC.Text.Quoted

namespace PortableC.Toml

/-! Values of a TOML document.  Tables keep their entries in document order. -/

/-- How a table came to be, which decides what may still be added to it. -/
inductive Origin where
  | header
  /-- Made on the way to a table further down that has a header. -/
  | implied
  | dotted
  | inline
deriving DecidableEq, Repr

inductive Value where
  | string (text : String)
  | integer (value : Int)
  | float (value : Decimal.Binary64)
  | boolean (value : Bool)
  /-- A date, a time of day, or both, as it is written. -/
  | moment (text : String)
  | array (items : List Value)
  | table (origin : Origin) (entries : List (String × Value))
  /-- Tables that repeated headers have opened one after the other. -/
  | tables (elements : List (List (String × Value)))

abbrev Entries := List (String × Value)

/-- What a reader that expects something else sees of a value.  A date or time
counts as a mapping. -/
inductive Shape where
  | string (text : String)
  | integer (value : Int)
  | float (value : Decimal.Binary64)
  | boolean (value : Bool)
  | sequence
  | mapping
deriving DecidableEq, Repr

def Value.shape : Value → Shape
  | .string text => .string text
  | .integer value => .integer value
  | .float value => .float value
  | .boolean value => .boolean value
  | .array _ | .tables _ => .sequence
  | .moment _ | .table _ _ => .mapping

def Shape.description : Shape → String
  | .string text => "string " ++ Text.quoted text
  | .integer value => "integer `" ++ toString value ++ "`"
  | .float value => "floating point `" ++ value.text ++ "`"
  | .boolean value => "boolean `" ++ (if value then "true" else "false") ++ "`"
  | .sequence => "sequence"
  | .mapping => "map"

end PortableC.Toml
