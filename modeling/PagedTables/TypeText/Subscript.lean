import PagedTables.Sequence
import PagedTables.TypeText.Arithmetic

/-!
# Subscripts of meanings

What brackets behind a meaning give: a type applied to others, an element of a sequence, a part of
one, or the value of a key.
-/
namespace PagedTables.TypeText.Meaning

/-- A type applied to others in brackets. -/
def apply (head index : Meaning) : Found Meaning :=
  match head with
  | builder "Optional" => do union [← asType index, nullType]
  | builder "Union" => union index.asArguments
  | builder "List" => do
    match ← index.asArguments.mapM asType with
    | [m] => .ok (applied "List" [m])
    | _ => unfit
  | named name =>
    if genericTypes.contains name then .ok (applied name index.asArguments) else unfit
  | _ => unfit

/-- The bound of a slice. -/
def bound (m : Meaning) : Found (Option Int) :=
  match m with
  | nothing => .ok none
  | m => m.whole?.elim unfit fun n => .ok (some n)

/-- The part of a sequence between two bounds. -/
def part (m start stop step : Meaning) : Found Meaning := do
  let start ← start.bound
  let stop ← stop.bound
  let step ← step.bound
  let cut {α : Type} (xs : List α) : Found (List α) :=
    (Sequence.slice? xs start stop step).elim (.error (.operand "slice step cannot be zero")) .ok
  match m with
  | tuple xs => (cut xs).map tuple
  | list xs => (cut xs).map list
  | value (.bytes bs) => (cut bs).map fun bs => value (.bytes bs)
  | m => match m.asText? with
    | some s => (cut s.toList).map fun cs => ofText (String.ofList cs)
    | none => unfit

/-- What a meaning gives for an index in brackets. -/
def entry (m index : Meaning) : Found Meaning :=
  let placed {α : Type} (xs : List α) (written : α → Meaning) : Found Meaning :=
    match index.whole? with
    | none => unfit
    | some i => (Sequence.get? xs i).elim (.error .noIndex) fun x => .ok (written x)
  match m with
  | tuple xs => placed xs id
  | list xs => placed xs id
  | series "range" (.ok xs) => placed xs id
  | dict entries =>
    if !index.isKey then unfit
    else match entries.find? fun (k, _) => same index k with
      | some (_, v) => .ok v
      | none => .error .noKey
  | value (.bytes bs) => placed bs fun b => ofInt b.toNat
  | m => match m.asText? with
    | some s => placed s.toList fun c => ofText (String.singleton c)
    | none => apply m index

end PagedTables.TypeText.Meaning
