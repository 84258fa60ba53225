import ModuleDocs.Text.Basic

/-! # Issues with an input

    What a check finds wrong with one part of an input, and where: a path of
    field names and list indexes. -/

namespace ModuleDocs

/-- One step on the way to a part of an input. -/
inductive Step where
  | field (name : Text)
  | index (i : Nat)
deriving DecidableEq, Repr

/-- What is wrong with a part of an input. -/
inductive IssueKind where
  | missing
  | notARecord (record : Text)
  | rejected (reason : Text)
  | notOneOf (choices : Text)
  | notText
  | notAList
  | notANumber
  | unreadableNumber
  | notFinite
  | notAnInteger
  | fractional
  | unreadableInteger
  | integerTooLong
  | notATruthValue
  | unreadableTruthValue
  | notAPath
  | tooSmall (bound : Text)
  | below (bound : Text)
  | above (bound : Text)
deriving DecidableEq, Repr

/-- An issue and its place. -/
structure Issue where
  kind : IssueKind
  place : List Step
deriving DecidableEq, Repr

namespace IssueKind

/-- The short name of an issue. -/
def code : IssueKind → Text
  | missing => "missing"
  | notARecord _ => "model_type"
  | rejected _ => "value_error"
  | notOneOf _ => "literal_error"
  | notText => "string_type"
  | notAList => "list_type"
  | notANumber => "float_type"
  | unreadableNumber => "float_parsing"
  | notFinite => "finite_number"
  | notAnInteger => "int_type"
  | fractional => "int_from_float"
  | unreadableInteger => "int_parsing"
  | integerTooLong => "int_parsing_size"
  | notATruthValue => "bool_type"
  | unreadableTruthValue => "bool_parsing"
  | notAPath => "path_type"
  | tooSmall _ => "greater_than"
  | below _ => "greater_than_equal"
  | above _ => "less_than_equal"

/-- The wording of an issue. -/
def message : IssueKind → Text
  | missing => "Field required"
  | notARecord record => "Input should be a valid dictionary or instance of " ++ record
  | rejected reason => "Value error, " ++ reason
  | notOneOf choices => "Input should be " ++ choices
  | notText => "Input should be a valid string"
  | notAList => "Input should be a valid list"
  | notANumber => "Input should be a valid number"
  | unreadableNumber => "Input should be a valid number, unable to parse string as a number"
  | notFinite => "Input should be a finite number"
  | notAnInteger => "Input should be a valid integer"
  | fractional => "Input should be a valid integer, got a number with a fractional part"
  | unreadableInteger => "Input should be a valid integer, unable to parse string as an integer"
  | integerTooLong =>
    "Unable to parse input string as an integer, exceeded maximum size"
  | notATruthValue => "Input should be a valid boolean"
  | unreadableTruthValue => "Input should be a valid boolean, unable to interpret input"
  | notAPath => "Input is not a valid path for <class 'pathlib.Path'>"
  | tooSmall bound => "Input should be greater than " ++ bound
  | below bound => "Input should be greater than or equal to " ++ bound
  | above bound => "Input should be less than or equal to " ++ bound

end IssueKind

end ModuleDocs
