import CriteriaSql.Double.Basic
import CriteriaSql.Schema.Document

/-! TOML values. -/

namespace CriteriaSql

namespace Toml

inductive Value where
  | string (s : String)
  | integer (n : Int)
  | float (x : Double)
  | boolean (b : Bool)
  | dateTime (text : String)
  | array (items : List Value)
  | table (entries : List (String × Value))

end Toml

namespace Document

mutual

/-- Surplus items of an array do not matter. A date-time stands for a record of one member that no
field is named after. -/
def ofToml : Toml.Value → Document
  | .string s => text s
  | .integer _ => number
  | .float _ => number
  | .boolean b => flag b
  | .dateTime s => record [("date-time", text s)]
  | .array items => list false (ofTomlItems items)
  | .table entries => record (ofTomlEntries entries)

def ofTomlItems : List Toml.Value → List Document
  | [] => []
  | item :: rest => ofToml item :: ofTomlItems rest

def ofTomlEntries : List (String × Toml.Value) → List (String × Document)
  | [] => []
  | (key, value) :: rest => (key, ofToml value) :: ofTomlEntries rest

end

end Document

end CriteriaSql
