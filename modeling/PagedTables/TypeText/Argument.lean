import PagedTables.TypeText.Display

/-!
# Arguments

The arguments of calls in type texts, bound to the parameters that they are for: by position, by
name, or out of a dictionary.
-/
namespace PagedTables.TypeText

/-- Meanings by name, of which the first one with a name counts. -/
abbrev Bindings := List (String × Meaning)

namespace Meaning

/-- The arguments of a function bound to its parameters: the ones by position in their order, the
others by name, and defaults where there is none. -/
def bindArguments (positions : List Meaning) (named : Bindings) :
    List (String × ParameterKind × Option Meaning) → Found Bindings
  | [] => if positions.isEmpty && named.isEmpty then .ok [] else unfit
  | (name, kind, default) :: rest => do
    let others := named.filter fun (n, _) => n != name
    match kind, positions, named.lookup name with
    | .positions, xs, _ => return (name, tuple xs) :: (← bindArguments [] named rest)
    | .names, xs, _ =>
      let entries := named.map fun (n, x) => (ofText n, x)
      return (name, dict entries) :: (← bindArguments xs [] rest)
    | .byName, xs, some x => return (name, x) :: (← bindArguments xs others rest)
    | .byEither, [], some x => return (name, x) :: (← bindArguments [] others rest)
    | .byEither, _ :: _, some _ => unfit
    | .byName, xs, none => match default with
      | some x => return (name, x) :: (← bindArguments xs named rest)
      | none => unfit
    | _, x :: xs, _ => return (name, x) :: (← bindArguments xs named rest)
    | _, [], _ => match default with
      | some x => return (name, x) :: (← bindArguments [] named rest)
      | none => unfit

/-- The arguments that are given by name, where those of dictionaries are given by their keys. -/
def spread (given : List (Option String × Meaning)) : Found Bindings := do
  let parts ← given.mapM fun (key, m) => match key, m with
    | some key, m => .ok [(key, m)]
    | none, dict entries =>
      entries.mapM fun (k, x) => k.asText?.elim unfit fun key => .ok (key, x)
    | none, _ => unfit
  let named := parts.flatten
  if (named.map Prod.fst).eraseDups.length = named.length then .ok named else unfit

end Meaning

end PagedTables.TypeText
