import PagedTables.Number.Decimal

/-!
# Refusals

Why a part of a query cannot be sent to a service. A refusal names the construct as it is
displayed, and the clause in which it stands.
-/
namespace PagedTables

/-- The part of a query in which an expression stands; messages name it. -/
abbrev Clause := Option String

namespace Clause

/-- The filter. -/
def filter : Clause := some "filter"

/-- The sort keys. -/
def orderBy : Clause := some "orderby"

/-- The selected fields. -/
def select : Clause := some "select"

end Clause

/-- Why a construct is not supported. -/
inductive Reason where
  | notFinite
  | noOffset
  | noLiteral
  | notAnExpression
  | negation
  | operator (symbol : String)
  | unknownFunction (name : String)
  | argumentCount (name : String) (expected : List Nat) (got : Nat)
  | notAField
  deriving DecidableEq

namespace Reason

/-- The wording of a reason. -/
def text : Reason → String
  | notFinite => "non-finite numbers have no literal form"
  | noOffset => "datetime values must be timezone-aware"
  | noLiteral => "no OData literal form"
  | notAnExpression => "not a query expression"
  | negation => "negation is only supported on numeric constants"
  | operator symbol => "operator '" ++ symbol ++ "' has no OData equivalent"
  | unknownFunction name => "function '" ++ name ++ "' is not supported"
  | argumentCount name expected got =>
    "function '" ++ name ++ "' takes " ++ " or ".intercalate (expected.map Nat.repr) ++
      " argument(s), got " ++ got.repr
  | notAField => "only a field reference is allowed here"

end Reason

/-- Why an expression has no filter. -/
inductive Refusal where
  | unsupported (construct : String) (clause : Clause) (reason : Reason)
  | unknownField (name : String) (owner : Option String) (clause : Clause)
  /-- A point in time lies outside the calendar of UTC. -/
  | beyondCalendar
  /-- A decimal cannot be negated. -/
  | arithmetic (signal : DecimalSignal)
  /-- An integer has too many digits to be written or shown. -/
  | tooLong
  /-- A member of an enumeration has no name that could be written. -/
  | noName
  deriving DecidableEq

end PagedTables
