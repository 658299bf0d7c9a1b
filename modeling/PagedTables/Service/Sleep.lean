import PagedTables.Fault

/-!
# Waits of the system

Which times the system can wait for. A time is a whole number of seconds or a double. It is not
negative, and its nanoseconds have to be counted in 63 bits; those of a double are a double, too. A
decimal is no time, whatever it denotes.
-/
namespace PagedTables

/-- Nanoseconds in a second. -/
def nanosecondsPerSecond : Nat := 1000000000

/-- The nanoseconds of a time are below this number. -/
def nanosecondLimit : Nat := Nat.pow 2 63

/-- Whether the system can wait for a number of nanoseconds and maybe a fraction of one more. -/
def checkNanoseconds (isNegative : Bool) (n : Int) : Except Fault Unit :=
  if nanosecondLimit ≤ n ∨ n < -nanosecondLimit then .error .overflow
  else if isNegative then .error (.operand "sleep length must be non-negative")
  else .ok ()

/-- What is wrong with a double that is not finite. -/
def endlessFault : Binary64 → Fault
  | .nan _ => .operand "Invalid value NaN (not a number)"
  | _ => .overflow

/-- Whether the system can wait for a time, and what goes wrong if it cannot. -/
def systemSleep (time : Value) : Except Fault Unit :=
  match time.wholeNumber? with
  | some n => checkNanoseconds (n < 0) (n * nanosecondsPerSecond)
  | none =>
    match time with
    | .float x =>
      match (x.times nanosecondsPerSecond).truncate? with
      | some n => checkNanoseconds x.isNegative n
      | none => .error (endlessFault x)
    | _ => .error .wrongType

end PagedTables
