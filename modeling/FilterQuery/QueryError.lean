import FilterQuery.Decimal.Digits
import FilterQuery.Operator
import FilterQuery.Schema.Column

/-!
# Errors of a query

Why a filter map or a request cannot be turned into a statement.  `QueryError.code` names the cause
for programs and `QueryError.message` for people.
-/

namespace FilterQuery

/-- Why no statement can be built. -/
inductive QueryError where
  | unknownColumn (name : String)
  | missingMandatoryFilter (column : Column)
  | unsupportedOperator (code : String)
  | invalidValue (column : Column) (value : String) (expected : ValueType)
  | noExclusionRule (column : Column)
  | emptyFilter (name : String)
  | valueCount (column : Column) (operator : Operator) (count : Nat)
  | payloadTooLarge (max : Nat)
  | invalidPayload (reason : String)
  | tooManyFilters (max : Nat)
  | pageOutOfRange (page rows : Nat)
deriving DecidableEq

namespace QueryError

/-- The name of a cause for programs. -/
def code : QueryError → String
  | .unknownColumn _ => "UNKNOWN_COLUMN"
  | .missingMandatoryFilter _ => "MISSING_MANDATORY_FILTER"
  | .unsupportedOperator _ => "UNSUPPORTED_OPERATOR"
  | .invalidValue _ _ _ => "INVALID_VALUE_FORMAT"
  | .noExclusionRule _ => "NO_FORBIDDEN_VALUE_RULE"
  | .emptyFilter _ => "EMPTY_FILTER"
  | .valueCount _ _ _ => "INVALID_VALUE_COUNT"
  | .payloadTooLarge _ => "FILTER_JSON_TOO_LARGE"
  | .invalidPayload _ => "INVALID_FILTER_JSON"
  | .tooManyFilters _ => "TOO_MANY_FILTERS"
  | .pageOutOfRange _ _ => "PAGE_OUT_OF_RANGE"

/-- The wording of a cause for people. -/
def message : QueryError → String
  | .unknownColumn name => "Unknown column: " ++ name
  | .missingMandatoryFilter column => "Missing mandatory filter: " ++ column.name
  | .unsupportedOperator code => "Unsupported operator: " ++ code
  | .invalidValue column value expected =>
      "Invalid value '" ++ value ++ "' for column " ++ column.name ++ ": expected "
        ++ expected.description
  | .noExclusionRule column => "No forbidden value rule for column " ++ column.name
  | .emptyFilter name => "Filter " ++ name ++ " has no values"
  | .valueCount column operator count =>
      "Operator " ++ operator.code ++ " on column " ++ column.name
        ++ " takes exactly one value, got " ++ Decimal.naturalText count
  | .payloadTooLarge max =>
      "Filter JSON exceeds maximum size of " ++ Decimal.naturalText max ++ " bytes"
  | .invalidPayload reason => "Invalid filter JSON: " ++ reason
  | .tooManyFilters max => "Maximum " ++ Decimal.naturalText max ++ " filters allowed"
  | .pageOutOfRange page rows =>
      "Page " ++ Decimal.naturalText page ++ " with " ++ Decimal.naturalText rows
        ++ " rows per page is out of range"

/-- Whether a cause may go away by itself; none does, for each lies in the request. -/
def isTransient (_ : QueryError) : Bool :=
  false

end QueryError

/-- The column of a name, or the error that there is none. -/
def Column.resolve (name : String) : Except QueryError Column :=
  match Column.ofName? name with
  | some column => .ok column
  | none => .error (.unknownColumn name)

/-- The operator of a code, or the error that there is none. -/
def Operator.resolve (code : String) : Except QueryError Operator :=
  match Operator.ofCode? code with
  | some operator => .ok operator
  | none => .error (.unsupportedOperator code)

end FilterQuery
