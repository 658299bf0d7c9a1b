import PagedTables.Value.Equality

/-!
# Dictionaries of pairs

A collection of pairs spells a dictionary: each pair is an entry, and a later one replaces an
earlier one with the same key. A text or a dictionary counts as the collection of its characters or
its keys, so that a text of two characters is a pair.
-/
namespace PagedTables

/-- Why a value spells no dictionary. -/
inductive PairingFault where
  /-- It is no collection, or one of something else than collections, or a key cannot be one. -/
  | unfit
  /-- The element at a place has another length than a pair. -/
  | length (place size : Nat)
  deriving DecidableEq

namespace Value

/-- The elements of a collection. -/
def elements? : Value → Option (List Value)
  | text s => some (s.toList.map fun c => text (String.singleton c))
  | bytes bs => some (bs.map fun b => int b.toNat)
  | list xs => some xs
  | tuple xs => some xs
  | dict entries => some (entries.map Prod.fst)
  | _ => none

/-- The entries that a list of elements spells, the first of which stands at a place. -/
def pairsFrom (place : Nat) : List Value → Except PairingFault (List (Value × Value))
  | [] => .ok []
  | x :: rest =>
    match x.elements? with
    | none => .error .unfit
    | some [key, v] =>
      if key.isKey then (pairsFrom (place + 1) rest).map ((key, v) :: ·) else .error .unfit
    | some xs => .error (.length place xs.length)

/-- The dictionary that a value is or spells. -/
def toDict : Value → Except PairingFault Value
  | dict entries => .ok (dict entries)
  | v => match v.elements? with
    | none => .error .unfit
    | some xs => (pairsFrom 0 xs).map dictOf

end Value

end PagedTables
