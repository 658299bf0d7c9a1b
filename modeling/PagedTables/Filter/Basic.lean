import PagedTables.Expr.Build
import PagedTables.Filter.Literal
import PagedTables.Filter.Refusal
import PagedTables.Filter.Term
import PagedTables.Schema.Basic

/-!
# Filters of expressions

Expressions become filters as far as a service can evaluate them. Constants need a literal, fields
have to belong to the schema, calls need a supported function with a fitting number of arguments,
and of the operators only those with a spelling in filter texts are allowed. A numeric constant
under a minus sign becomes the literal of the negated number; nothing else can be negated. Where
one operand of an addition is known to be a string, the addition is a concatenation.

A node is checked before its operands or arguments, and those from left to right, so the first
refusal in that order is the one that is reported. A function is known by the text that its name
is; what is written for the name is sent.
-/
namespace PagedTables

/-- The refusal of a value without a literal. -/
def LiteralFault.refusal (clause : Clause) : LiteralFault → Refusal
  | notFinite display => .unsupported display clause .notFinite
  | noOffset display => .unsupported display clause .noOffset
  | unknownType typeName => .unsupported ("constant of type " ++ typeName) clause .noLiteral
  | beyondCalendar => .beyondCalendar
  | tooLong => .tooLong
  | noName => .noName

/-- The literal text of a value. -/
def Value.literalText (clause : Clause) (v : Value) : Except Refusal String :=
  match v.literal with
  | .ok literal => .ok literal.toText
  | .error fault => .error (fault.refusal clause)

/-- The negated number, if the value is one that can be negated. -/
def Value.negated? : Value → Option (Except DecimalSignal Value)
  | int n => some (.ok (.int (-n)))
  | float x => some (.ok (.float x.negate))
  | decimal d => some (d.negate.map .decimal)
  | _ => none

/-- The refusal of an expression that is not supported, and that is shown if it can be. -/
def Expr.refusal (clause : Clause) (reason : Reason) (e : Expr) : Refusal :=
  if e.isShowable then .unsupported e.display clause reason else .tooLong

/-- The operator has a spelling in filter texts. -/
def BinaryOp.isSupported : BinaryOp → Bool
  | xor | power | shiftLeft | shiftRight | floorDiv => false
  | _ => true

/-- The functions whose result is a string. -/
def stringFunctions : List String :=
  ["tolower", "toupper", "trim", "concat", "substring", "replace"]

/-- The expression is known to be a string. -/
def Expr.isString (schema : Schema) : Expr → Bool
  | constant v => v.asText?.isSome
  | field path => schema.isString path
  | call name _ => stringFunctions.contains name.text
  | binary .add left right => left.isString schema || right.isString schema
  | _ => false

/-- The path of a field at the service. -/
def Schema.resolve (schema : Schema) (clause : Clause) (path : FieldPath) :
    Except Refusal String :=
  match schema.wirePath? path with
  | some wire => .ok wire
  | none => .error (.unknownField path.dotted schema.typeName? clause)

mutual

/-- The filter term of an expression. -/
def Expr.toTerm (schema : Schema) (clause : Clause) : Expr → Except Refusal FilterTerm
  | constant v => (v.literalText clause).map .literal
  | field path => (schema.resolve clause path).map .field
  | unary .not operand => (Expr.toTerm schema clause operand).map .not
  | unary .negate operand =>
    let refused := .error ((unary .negate operand).refusal clause .negation)
    match operand with
    | constant v =>
      match v.negated? with
      | some (.ok negated) => (negated.literalText clause).map .literal
      | some (.error signal) => .error (.arithmetic signal)
      | none => refused
    | _ => refused
  | binary op left right =>
    if op.isSupported then do
      let l ← Expr.toTerm schema clause left
      let r ← Expr.toTerm schema clause right
      if op = .add && (left.isString schema || right.isString schema) then
        return .call "concat" [l, r]
      else return .binary op l r
    else .error ((binary op left right).refusal clause (.operator op.symbol))
  | call name arguments =>
    match functionArities.lookup name.text with
    | none => .error ((call name arguments).refusal clause (.unknownFunction name.written))
    | some arities =>
      if arities.contains arguments.length then
        (Expr.toTerms schema clause arguments).map (.call name.written ·)
      else
        .error ((call name arguments).refusal clause
          (.argumentCount name.written arities arguments.length))
  | foreign text =>
    .error (.unsupported ((foreign text).kindName ++ " " ++ (foreign text).display) clause
      .notAnExpression)

/-- The filter terms of the expressions of a list. -/
def Expr.toTerms (schema : Schema) (clause : Clause) :
    List Expr → Except Refusal (List FilterTerm)
  | [] => .ok []
  | e :: rest => do
    let t ← Expr.toTerm schema clause e
    let ts ← Expr.toTerms schema clause rest
    return t :: ts

end

/-- The filter text of an expression. -/
def Expr.filterText (schema : Schema) (e : Expr) : Except Refusal String :=
  (e.toTerm schema Clause.filter).map FilterTerm.toText

/-- The filter text of an expression, or the refusal of a value that is none. -/
def Operand.filterText (schema : Schema) : Operand → Except Refusal String
  | node e => e.filterText schema
  | plain v =>
    .error (if v.isShowable then
      .unsupported (v.typeName ++ " " ++ v.display) Clause.filter .notAnExpression
    else .tooLong)

end PagedTables
