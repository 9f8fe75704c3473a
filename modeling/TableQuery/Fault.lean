import TableQuery.Dataset.ColumnType
import TableQuery.Filter.Operator
import TableQuery.Json.Value
import TableQuery.Numeric.Shortest

/-!
# What can go wrong

Faults name causes; their wording is in `RequestFault.message`, `ConfigFault.message`,
`StoreFault.message` and `QueryError.message` alone. `QueryError.isClientError` tells the
caller's faults from those of the store and the configuration.
-/

namespace TableQuery

/-- Why a request is refused. Values are quoted as JSON text. -/
inductive RequestFault where
  | pageZero
  | limitZero
  /-- A limit or offset too large to be bound. -/
  | pageRange (n : Nat)
  /-- A bound value too large for a signed word of 64 bits. -/
  | valueRange (n : Nat)
  /-- A bound value of a kind without a parameter. -/
  | unsupportedValue (shown : String)
  | columnNameEmpty
  | columnNameRepeated (name : String)
  | scalarExpected (field : String) (got : String)
  | typeMismatch (field : String) (type : ColumnType) (got : String)
  | filterNotJson
  | filterNotObject (kind : JsonKind)
  | unknownConnective (key : String)
  | groupNotArray (kind : Connective)
  | groupMember (kind : Connective) (found : JsonKind)
  | unknownOperator (key field : String)
  | listExpected (operator : Operator) (field : String)
  | objectWithoutOperators (field : String)
  | arrayValue (field : String)
  | patternExpected (field : String)
  | valueExpected (operator : Operator) (field : String)
  | nothingToSet
  | updateUnfiltered
  | deleteUnfiltered
  | valuesNotObject
  | rowNotObject
  | seedNotObject
  | argumentNotJson (name : String)
  | rowsArgument
deriving DecidableEq, Repr

/-- The fault in words. -/
def RequestFault.message : RequestFault → String
  | .pageZero => "page must be at least 1"
  | .limitZero => "limit must be at least 1"
  | .pageRange n => "pagination value " ++ toString n ++ " out of range"
  | .valueRange n => "value " ++ toString n ++ " out of range"
  | .unsupportedValue shown => "unsupported bound value: " ++ shown
  | .columnNameEmpty => "column name must not be empty"
  | .columnNameRepeated name => "duplicate column name: " ++ name
  | .scalarExpected field got => "field " ++ field ++ " expects a scalar value, got " ++ got
  | .typeMismatch field type got =>
    "field " ++ field ++ " expects a " ++ type.name ++ " value, got " ++ got
  | .filterNotJson => "filter is not valid JSON"
  | .filterNotObject kind => "filter must be a JSON object, got " ++ kind.phrase
  | .unknownConnective key => "unsupported logical operator: " ++ key
  | .groupNotArray kind => kind.key ++ " expects an array of filter objects"
  | .groupMember kind found =>
    kind.key ++ " expects an array of filter objects, found " ++ found.phrase
  | .unknownOperator key field => "unsupported operator " ++ key ++ " on field " ++ field
  | .listExpected operator field => operator.key ++ " on field " ++ field ++ " expects an array"
  | .objectWithoutOperators field =>
    "field " ++ field ++ " has an object value without operators"
  | .arrayValue field => "field " ++ field ++ " has an array value; use $in"
  | .patternExpected field => "$like on field " ++ field ++ " expects a string"
  | .valueExpected operator field =>
    operator.key ++ " on field " ++ field ++ " expects a non-null value"
  | .nothingToSet => "update has no known columns to set"
  | .updateUnfiltered => "update requires a filter matching known columns"
  | .deleteUnfiltered => "delete requires a filter matching known columns"
  | .valuesNotObject => "update values must be a JSON object"
  | .rowNotObject => "each inserted row must be a JSON object"
  | .seedNotObject => "seed rows must be objects"
  | .argumentNotJson name => "--" ++ name ++ " is not valid JSON"
  | .rowsArgument => "--rows must be a JSON object or array of objects"

/-- Why a configuration is refused. -/
inductive ConfigFault where
  | reenableRatio (got : Binary64)
  | evictionAllowance (got : Binary64)
  | numericStringThreshold (got : Binary64)
  | emptyInList
  | unreadable
deriving DecidableEq, Repr

/-- The fault in words. -/
def ConfigFault.message : ConfigFault → String
  | .reenableRatio got =>
    "cache.memory.reenable_ratio must be within 0..=1, got " ++ plainNumber.write got
  | .evictionAllowance got =>
    "cache.memory.eviction_allowance must be within 0..=1, got " ++ plainNumber.write got
  | .numericStringThreshold got =>
    "query.numeric_string_threshold must be within 0..=9007199254740991, got " ++
      plainNumber.write got
  | .emptyInList => "query.max_in_list must be greater than 0"
  | .unreadable => "failed to read config file"

/-- Why the store did not answer. -/
inductive StoreFault where
  | unavailable (detail : String)
  | database (detail : String)
deriving DecidableEq, Repr

/-- The fault in words. -/
def StoreFault.message : StoreFault → String
  | .unavailable detail => "Backend unavailable: " ++ detail
  | .database detail => "DuckDB error: " ++ detail

/-- Why an operation failed. -/
inductive QueryError where
  | request (fault : RequestFault)
  | datasetId (id : String)
  | notFound (what : String)
  | store (fault : StoreFault)
  /-- Text that is not JSON, or not of the form that was asked for. -/
  | json
  /-- Text that is not YAML, or not of the form that was asked for. -/
  | yaml
  | config (fault : ConfigFault)
  /-- A moment beyond the range of the clock. -/
  | clock
deriving DecidableEq, Repr

namespace QueryError

/-- The error in words. -/
def message : QueryError → String
  | .request fault => "Invalid request: " ++ fault.message
  | .datasetId id => "Invalid dataset id: " ++ id
  | .notFound what => "Dataset not found: " ++ what
  | .store fault => fault.message
  | .json => "JSON error"
  | .yaml => "YAML error"
  | .config fault => "Configuration error: " ++ fault.message
  | .clock => "overflow when adding duration to instant"

/-- The caller's input is at fault. -/
def isClientError : QueryError → Bool
  | .request _ | .datasetId _ | .notFound _ => true
  | _ => false

end QueryError

end TableQuery
