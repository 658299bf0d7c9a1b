import PagedTables.TypeText.Pattern

/-!
# Operations on meanings

The operators and relations of type texts. They are those of types in full, and those of numbers,
texts and collections as far as their results can matter to a type; a result that is only known by
its type is an object without a name.
-/
namespace PagedTables.TypeText.Meaning

/-- The bar: an alternative of types, or an operator on bits, sets and dictionaries. -/
def join (left right : Meaning) : Found Meaning :=
  match left, right with
  | dict xs, dict ys => .ok (dict (ys.foldl (fun acc (k, v) => insertEntry k v acc) xs))
  | left, right =>
    if left.whole?.isSome && right.whole?.isSome || left.typeName = "set" && right.typeName = "set"
    then bits Nat.lor (· || ·) (fun xs ys => distinct (xs ++ ys)) left right
    else bar left right

/-- An operator between two operands. -/
def operate (op : Operator) (left right : Meaning) : Found Meaning :=
  match op with
  | .bar => join left right
  | .caret => bits Nat.xor (· != ·)
      (fun xs ys => filtered false xs ys ++ filtered false ys xs) left right
  | .ampersand => bits Nat.land (· && ·) (filtered true) left right
  | .shiftLeft => shift true left right
  | .shiftRight => shift false left right
  | .plus => plus left right
  | .minus => minus left right
  | .times => times left right
  | .matrix => unfit
  | .divide => divide left right
  | .floor => divideWhole Int.fdiv (fun n _ => (n, 1)) left right
  | .remainder => remainder left right
  | .power => power left right

/-- An operator in front of an operand. -/
def sign (op : SignOperator) (m : Meaning) : Found Meaning :=
  match op, m.whole?, m with
  | .plus, some n, _ => .ok (ofInt n)
  | .minus, some n, _ => .ok (ofInt (-n))
  | .complement, some n, _ => .ok (ofInt (-n - 1))
  | .minus, none, value (.float x) => .ok (value (.float x.negate))
  | .complement, none, _ => unfit
  | _, none, m => if m.isFraction then .ok m else unfit

/-! ## Relations -/

/-- One and the same object. -/
def isIdentical (left right : Meaning) : Bool :=
  match left, right with
  | nothing, nothing => true
  | value x, value y => x.typeName == y.typeName && x.sameKey y
  | named x, named y => x == y
  | builder x, builder y => x == y
  | object t x, object u y => x != "" && t == u && x == y
  | details t x _, details u y _ => t == u && x == y
  | tuple [], tuple [] => true
  | _, _ => false

/-- The elements of a meaning in their order. -/
def elements (m : Meaning) : Found (List Meaning) :=
  match m with
  | tuple xs => .ok xs
  | list xs => .ok xs
  | set xs => .ok xs
  | dict entries => .ok (entries.map Prod.fst)
  | applied .. => .ok [m]
  | series _ xs => xs
  | value (.bytes bs) => .ok (bs.map fun b => ofInt b.toNat)
  | m => match m.asText? with
    | some s => .ok (s.toList.map fun c => ofText (String.singleton c))
    | none => unfit

/-- The elements occur one after the other in a list. -/
def occursIn {α : Type} [BEq α] (part : List α) : List α → Bool
  | [] => part.isEmpty
  | c :: rest => part.isPrefixOf (c :: rest) || occursIn part rest

/-- A meaning is a part of a sequence of bytes, or one of its bytes. -/
def isAmongBytes (m : Meaning) (bytes : List UInt8) : Found Bool :=
  match m, m.whole? with
  | value (.bytes part), _ => .ok (occursIn part bytes)
  | _, some n =>
    if 0 ≤ n && n < 256 then .ok (bytes.any fun b => n == b.toNat)
    else .error (.operand "byte must be in range(0, 256)")
  | _, none => unfit

/-- A meaning is among the elements of another. -/
def isAmong (m container : Meaning) : Found Bool :=
  match container.asText?, m.asText? with
  | some s, some part => .ok (occursIn part.toList s.toList)
  | some _, none => unfit
  | none, _ => do
    let xs ← container.elements
    match container with
    | value (.bytes bs) => isAmongBytes m bs
    | set _ => if m.isKey then .ok (xs.any (same m)) else unfit
    | dict _ => if m.isKey then .ok (xs.any (same m)) else unfit
    | series "dict_keys" _ => if m.isKey then .ok (xs.any (same m)) else unfit
    | series "frozenset" _ => if m.isKey then .ok (xs.any (same m)) else unfit
    | _ => .ok (xs.any (same m))

/-- The order of two doubles. -/
def orderDoubles (a b : Binary64) : Option Ordering :=
  let rank? : Binary64 → Option Int
    | .nan _ => none
    | .infinite negative => some (if negative then -magnitudeCount else magnitudeCount)
    | .finite negative rank => some (if negative then -rank.val else rank.val)
  match rank? a, rank? b with
  | some x, some y => some (compare x y)
  | _, _ => none

/-- The order of two values; nothing for numbers that are in none. -/
def orderValues (x y : Value) : Found (Option Ordering) :=
  match x.wholeNumber?, y.wholeNumber? with
  | _, some n => (x.ordering n).mapError fun _ => .senseless
  | some m, none => ((y.ordering m).map (Option.map Ordering.swap)).mapError fun _ => .senseless
  | none, none => match x, y with
    | .float a, .float b => .ok (orderDoubles a b)
    | .bytes a, .bytes b => .ok (some (compare a b))
    | x, y => match x.asText?, y.asText? with
      | some s, some t => .ok (some (compare s t))
      | _, _ => unfit

mutual

/-- The order of two meanings, which for tuples and lists is that of their first elements that
differ; nothing for numbers that are in none. -/
def order (left right : Meaning) : Found (Option Ordering) :=
  match left with
  | value x => match right with
    | value y => orderValues x y
    | _ => unfit
  | tuple xs => match right with
    | tuple ys => orderAll xs ys
    | _ => unfit
  | list xs => match right with
    | list ys => orderAll xs ys
    | _ => unfit
  | _ => unfit

/-- The order of two lists of meanings. -/
def orderAll : List Meaning → List Meaning → Found (Option Ordering)
  | [], ys => .ok (some (if ys.isEmpty then .eq else .lt))
  | x :: xs, ys => match ys with
    | [] => .ok (some .gt)
    | y :: ys => if same x y then orderAll xs ys else order x y

end

/-- Whether a relation holds. -/
def relate (r : Relation) (left right : Meaning) : Found Bool :=
  let ordered (holds : Ordering → Bool) (includes : List Meaning → List Meaning → Bool) :
      Found Bool :=
    match left, right with
    | set xs, set ys => .ok (includes xs ys)
    | left, right => (order left right).map fun o => o.any holds
  let isPart (xs ys : List Meaning) : Bool := allAmong xs ys
  match r with
  | .equal => .ok (same left right)
  | .notEqual => .ok (!same left right)
  | .same => .ok (isIdentical left right)
  | .notSame => .ok (!isIdentical left right)
  | .among => isAmong left right
  | .notAmong => (isAmong left right).map (!·)
  | .less => ordered (· == .lt) fun xs ys => isPart xs ys && !isPart ys xs
  | .lessEqual => ordered (· != .gt) isPart
  | .greater => ordered (· == .gt) fun xs ys => isPart ys xs && !isPart xs ys
  | .greaterEqual => ordered (· != .lt) fun xs ys => isPart ys xs

end PagedTables.TypeText.Meaning
