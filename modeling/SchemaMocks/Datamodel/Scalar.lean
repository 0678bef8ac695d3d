set_option autoImplicit false
set_option relaxedAutoImplicit false

/-!
Scalar column types and their names.
-/

namespace SchemaMocks

/-- The scalar types that generated code knows. -/
inductive ScalarType where
  | string
  | int
  | float
  | decimal
  | boolean
  | dateTime
  | json
  | bigInt
  | bytes
  deriving DecidableEq

namespace ScalarType

def all : List ScalarType :=
  [string, int, float, decimal, boolean, dateTime, json, bigInt, bytes]

def name : ScalarType → String
  | string => "String"
  | int => "Int"
  | float => "Float"
  | decimal => "Decimal"
  | boolean => "Boolean"
  | dateTime => "DateTime"
  | json => "Json"
  | bigInt => "BigInt"
  | bytes => "Bytes"

/-- The scalar type of a name, which is case-sensitive. -/
def ofName? (name : String) : Option ScalarType :=
  all.find? fun t => t.name == name

def isNumeric : ScalarType → Bool
  | int | float | decimal | bigInt => true
  | _ => false

def isFractional : ScalarType → Bool
  | float | decimal => true
  | _ => false

theorem ofName?_name (t : ScalarType) : ofName? t.name = some t := by
  cases t <;> decide

end ScalarType

end SchemaMocks
