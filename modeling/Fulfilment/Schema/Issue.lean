/-!
# Validation issues

What is wrong with a value that was to be read, and where: the path of member names from the
whole to the part.
-/

namespace Fulfilment
namespace Schema

/-- What is wrong with a part. -/
inductive IssueKind where
  | jsonInvalid
  | jsonType
  | modelType
  | missing
  | stringType
  | intType
  | intParsing
  | intParsingSize
  | intFromFloat
  | finiteNumber
  | floatType
  | floatParsing
  | greaterThan
  | greaterThanEqual
  | lessThanEqual
  | uuidType
  | uuidParsing
  | datetimeType
  | datetimeParsing
  | datetimeFromDateParsing
deriving DecidableEq, Repr

/-- The code of a kind of issue. -/
def IssueKind.code (kind : IssueKind) : String :=
  match kind with
  | .jsonInvalid => "json_invalid"
  | .jsonType => "json_type"
  | .modelType => "model_type"
  | .missing => "missing"
  | .stringType => "string_type"
  | .intType => "int_type"
  | .intParsing => "int_parsing"
  | .intParsingSize => "int_parsing_size"
  | .intFromFloat => "int_from_float"
  | .finiteNumber => "finite_number"
  | .floatType => "float_type"
  | .floatParsing => "float_parsing"
  | .greaterThan => "greater_than"
  | .greaterThanEqual => "greater_than_equal"
  | .lessThanEqual => "less_than_equal"
  | .uuidType => "uuid_type"
  | .uuidParsing => "uuid_parsing"
  | .datetimeType => "datetime_type"
  | .datetimeParsing => "datetime_parsing"
  | .datetimeFromDateParsing => "datetime_from_date_parsing"

/-- A kind of issue and the path to the part that has it. -/
structure Issue where
  kind : IssueKind
  path : List String
deriving DecidableEq, Repr

/-- The issue seen from a value that holds the part under a name. -/
def Issue.under
    (name : String)
    (issue : Issue) : Issue :=
  { issue with path := name :: issue.path }

end Schema
end Fulfilment
