import RouteFeed.Settings
import RouteFeed.Text.Quoted
import RouteFeed.Value.Printer

/-! What can be wrong with a setting, and how that is reported. -/
namespace RouteFeed.Settings

inductive Problem where
  | noText
  | brokenText
  /-- Neither a number nor a text where an integer is needed. -/
  | noInteger
  | integerText
  | integerSize
  /-- A number with a fraction where an integer is needed. -/
  | fraction
  /-- An infinity, or no number, where an integer is needed. -/
  | notFinite
  | belowMinimum (minimum : Int)
  /-- Neither a number nor a text where a number is needed. -/
  | noReal
  | realText
  | notPositive
  | layoutName
  | levelName (given : String)
  | address
  deriving DecidableEq

namespace Problem

def code : Problem → String
  | noText => "string_type"
  | brokenText => "string_unicode"
  | noInteger => "int_type"
  | integerText => "int_parsing"
  | integerSize => "int_parsing_size"
  | fraction => "int_from_float"
  | notFinite => "finite_number"
  | belowMinimum _ => "greater_than_equal"
  | noReal => "float_type"
  | realText => "float_parsing"
  | notPositive => "greater_than"
  | layoutName => "string_pattern_mismatch"
  | levelName _ | address => "value_error"

def message : Problem → String
  | noText => "Input should be a valid string"
  | brokenText => "Input should be a valid string, unable to parse raw data as a unicode string"
  | noInteger => "Input should be a valid integer"
  | integerText => "Input should be a valid integer, unable to parse string as an integer"
  | integerSize => "Unable to parse input string as an integer, exceeded maximum size"
  | fraction => "Input should be a valid integer, got a number with a fractional part"
  | notFinite => "Input should be a finite number"
  | belowMinimum minimum =>
    "Input should be greater than or equal to " ++ Text.decimal minimum
  | noReal => "Input should be a valid number"
  | realText => "Input should be a valid number, unable to parse string as a number"
  | notPositive => "Input should be greater than 0"
  | layoutName => "String should match pattern '^(json|text)$'"
  | levelName given => s!"Value error, LOG_LEVEL must be a logging level name, got {given}"
  | address => "Value error, RIS_LIVE_ENDPOINT must be an http(s) URL"

end Problem

structure Refusal where
  field : Field
  given : Value
  problem : Problem

/-- The bytes of a value that a report shows. -/
def excerptLimit : Nat := 50

/-- The longest end of a text, in whole characters, with at most `limit` bytes. -/
def lastBytes (limit : Nat) (cs : List Char) : List Char :=
  (Text.takeBytes limit cs.reverse).reverse

/-- A value in a report. A long one is shown by its start and its end. -/
def excerpt (s : String) : String :=
  let cs := s.toList
  if Text.byteCount cs ≤ excerptLimit then s
  else
    let half := (excerptLimit + 1) / 2
    String.ofList (Text.takeBytes half cs) ++ "..." ++
      String.ofList (lastBytes (half - 1) cs)

def Refusal.report (r : Refusal) : String :=
  let details := s!"[type={r.problem.code}, input_value={excerpt r.given.literal}, " ++
    s!"input_type={r.given.shape}]"
  s!"{r.field.name}\n  {r.problem.message} {details}\n"

def reportRefusals (rs : List Refusal) : String :=
  let count := Text.decimal rs.length ++ " validation error" ++ (if rs.length = 1 then "" else "s")
  count ++ " for Settings\n" ++ String.join (rs.map Refusal.report)

end RouteFeed.Settings
