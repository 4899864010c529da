import Peloton.Type.IntegerParentType

set_option autoImplicit false

namespace Peloton.Type

/-- The SQL types of a column. -/
inductive TypeId where
  | INVALID
  | PARAMETER_OFFSET
  | BOOLEAN
  | TINYINT
  | SMALLINT
  | INTEGER
  | BIGINT
  | DECIMAL
  | TIMESTAMP
  | DATE
  | VARCHAR
  | VARBINARY
  | ARRAY
  | UDT
  deriving DecidableEq, Repr

def TypeIdToString : TypeId → String
  | .INVALID => "INVALID"
  | .PARAMETER_OFFSET => "PARAMETER_OFFSET"
  | .BOOLEAN => "BOOLEAN"
  | .TINYINT => "TINYINT"
  | .SMALLINT => "SMALLINT"
  | .INTEGER => "INTEGER"
  | .BIGINT => "BIGINT"
  | .DECIMAL => "DECIMAL"
  | .TIMESTAMP => "TIMESTAMP"
  | .DATE => "DATE"
  | .VARCHAR => "VARCHAR"
  | .VARBINARY => "VARBINARY"
  | .ARRAY => "ARRAY"
  | .UDT => "UDT"

def IntegerTypeId.typeId : IntegerTypeId → TypeId
  | .TINYINT => .TINYINT
  | .SMALLINT => .SMALLINT
  | .INTEGER => .INTEGER
  | .BIGINT => .BIGINT

def PELOTON_TIMESTAMP_MIN : Int := 0

def PELOTON_TIMESTAMP_MAX : Int := 11231999986399999999

def PELOTON_DATE_MIN : Int := -2147483647

def PELOTON_DATE_MAX : Int := 2147483647

/-- Type::GetMinValue for the types whose values are integers. -/
def GetMinValue : TypeId → Option Int
  | .BOOLEAN => some 0
  | .TINYINT => some IntegerTypeId.TINYINT.PELOTON_MIN
  | .SMALLINT => some IntegerTypeId.SMALLINT.PELOTON_MIN
  | .INTEGER => some IntegerTypeId.INTEGER.PELOTON_MIN
  | .BIGINT => some IntegerTypeId.BIGINT.PELOTON_MIN
  | .TIMESTAMP => some PELOTON_TIMESTAMP_MIN
  | .DATE => some PELOTON_DATE_MIN
  | _ => none

/-- Type::GetMaxValue for the types whose values are integers. -/
def GetMaxValue : TypeId → Option Int
  | .BOOLEAN => some 1
  | .TINYINT => some IntegerTypeId.TINYINT.PELOTON_MAX
  | .SMALLINT => some IntegerTypeId.SMALLINT.PELOTON_MAX
  | .INTEGER => some IntegerTypeId.INTEGER.PELOTON_MAX
  | .BIGINT => some IntegerTypeId.BIGINT.PELOTON_MAX
  | .TIMESTAMP => some PELOTON_TIMESTAMP_MAX
  | .DATE => some PELOTON_DATE_MAX
  | _ => none

def nonNullRange : TypeId → Option (Int × Int)
  | .BOOLEAN => some (0, 1)
  | .TINYINT => some (IntegerTypeId.TINYINT.PELOTON_MIN, IntegerTypeId.TINYINT.PELOTON_MAX)
  | .SMALLINT => some (IntegerTypeId.SMALLINT.PELOTON_MIN, IntegerTypeId.SMALLINT.PELOTON_MAX)
  | .INTEGER => some (IntegerTypeId.INTEGER.PELOTON_MIN, IntegerTypeId.INTEGER.PELOTON_MAX)
  | .BIGINT => some (IntegerTypeId.BIGINT.PELOTON_MIN, IntegerTypeId.BIGINT.PELOTON_MAX)
  | .TIMESTAMP => some (0, 2 ^ 64 - 2)
  | .DATE => some (PELOTON_DATE_MIN, PELOTON_DATE_MAX)
  | _ => none

def isValueOf (type_id : TypeId) (x : Int) : Bool :=
  match nonNullRange type_id with
  | some (least, greatest) => least ≤ x && x ≤ greatest
  | none => false

def InMinMaxRange (type_id : TypeId) (x : Int) : Prop :=
  ∃ least greatest, GetMinValue type_id = some least ∧ GetMaxValue type_id = some greatest ∧
    least ≤ x ∧ x ≤ greatest

theorem inMinMaxRange_of_isValueOf {type_id : TypeId} {x : Int} (notTimestamp : type_id ≠ .TIMESTAMP)
    (value : isValueOf type_id x = true) : InMinMaxRange type_id x := by
  cases type_id <;> simp_all [isValueOf, nonNullRange, InMinMaxRange, GetMinValue, GetMaxValue]

end Peloton.Type
