import PagedTables.Page.Basic
import PagedTables.Query.Builder
import PagedTables.Report
import PagedTables.Value.Arithmetic
import PagedTables.Value.Integer
import PagedTables.Value.Pairs
import PagedTables.Url.Host

/-!
# Faults

Everything that can go wrong when queries are built, sent and answered, by its cause. Faults that
concern the library's own task have a report; the others have a message at most.
-/
namespace PagedTables

/-- Failures outside of the library that surface through it. -/
inductive OutsideKind where
  /-- The kinds of failure of a request that gets no response; only reads are tried again. -/
  | connection | timeout | readTimeout | invalidUrl | redirects
  /-- Other failures of the system or of a credential. -/
  | runtime | value | key | system
  deriving DecidableEq

/-- The failure of a request that got no response. -/
def OutsideKind.isNetwork : OutsideKind → Bool
  | connection | timeout | readTimeout | invalidUrl | redirects => true
  | _ => false

/-- Why a body of a response is not a page. -/
inductive PageFlaw where
  | notAnObject
  | items
  | count
  | nextLink
  deriving DecidableEq

namespace PageFlaw

/-- The wording of a flaw. -/
def text : PageFlaw → String
  | notAnObject => "expected a JSON object"
  | items => "'items' must be a list of objects"
  | count => "'count' must be an integer"
  | nextLink => "'nextLink' must be a string"

end PageFlaw

/-- Settings and arguments that must not be blank. -/
inductive Required where
  | baseUrl | endpoint | table | scope
  deriving DecidableEq

/-- A response of a status other than success. -/
structure HttpFailure where
  message : Value
  status : Int
  serviceCode : Option Value
  url : String
  excerpt : Option String
  retryAfter : Option Int

/-- What went wrong. -/
inductive Fault where
  | build (fault : BuildFault)
  | invalid (call : InvalidCall)
  | refused (refusal : Refusal)
  /-- Items cannot be of a type that declares no fields. -/
  | rowType
  /-- Projected items cannot be put into a type that declares no fields. -/
  | projectionTarget
  /-- The query was not made for a table. -/
  | unbound
  | emptyLink
  | url (fault : UrlFault)
  | required (what : Required)
  /-- A naming policy of another name, by its display. -/
  | naming (display : String)
  /-- Something that cannot give tokens. -/
  | credential
  /-- A value that should have been an integer. -/
  | integer (fault : IntegerFault)
  /-- Arithmetic on decimals or their comparison signalled. -/
  | signal (s : DecimalSignal)
  /-- A number too large for where it is needed. -/
  | overflow
  /-- A result is too large to be held. -/
  | outOfMemory
  /-- A value that has no use of the kind that is made of it. -/
  | wrongType
  /-- A value lacks an attribute or a method. -/
  | noAttribute
  /-- An expression of a kind was to be changed. -/
  | unchangeable (kindName : String)
  /-- A collection has no next element. -/
  | exhausted
  | noKey
  | noIndex
  /-- The declaration of a field is no expression. -/
  | declaration
  | zeroDivision
  /-- An operation has no result for its operands, as its message says. -/
  | operand (message : String)
  /-- A collection that all records of a type would share as the default of a field. -/
  | sharedDefault (field typeName : String)
  | zeroStep
  | duplicateKey (display : String)
  | notARow (typeName : String)
  | cancelled (fetched : Nat)
  | http (failure : HttpFailure)
  | notJson (address : String)
  | notAPage (address : String) (flaw : PageFlaw) (excerpt : String)
  | noCount (table : String)
  | outside (kind : OutsideKind) (message : String)
  /-- Nothing is left that could answer. -/
  | noAnswer
  /-- A search for the next item was given up. -/
  | abandoned

/-- The fault of an operation on values. -/
def OperationFault.fault : OperationFault → Fault
  | signal s => .signal s
  | overflow => .overflow
  | unsupported => .wrongType

/-- The fault of a pattern. -/
def PatternFault.fault (f : PatternFault) : Fault :=
  match f.message? with
  | some message => .operand message
  | none => match f with
    | .space => .outOfMemory
    | .unshownLetter => .overflow
    | _ => .wrongType

/-- The fault of a pattern with an expression for its argument. -/
def FillFault.fault : FillFault → Fault
  | pattern fault => fault.fault
  | emptyName => .build .emptyName

/-- The fault of an expression that cannot be built. -/
def BuildFault.fault : BuildFault → Fault
  | operation fault => fault.fault
  | pattern fault => fault.fault
  | fault => .build fault

/-- The fault of a change to an operand, none of which can be changed. -/
def Operand.changeFault : Operand → Fault
  | node e => .unchangeable e.kindName
  | plain (.uuid _) => .wrongType
  | plain _ => .noAttribute

/-- The fault of the text of a declaration. -/
def TypeText.Flaw.fault : TypeText.Flaw → Fault
  | senseless => .wrongType
  | malformed => .declaration
  | nullCharacter => .operand "source code string cannot contain null bytes"
  | noAttribute => .noAttribute
  | exhausted => .exhausted
  | noIndex => .noIndex
  | noKey => .noKey
  | zeroDivision => .zeroDivision
  | overflow => .overflow
  | tooLarge => .outOfMemory
  | operand message => .operand message

/-- The fault of a value that spells no dictionary. -/
def PairingFault.fault : PairingFault → Fault
  | unfit => .wrongType
  | length place size => .operand ("dictionary update sequence element #" ++ place.repr ++
      " has length " ++ size.repr ++ "; 2 is required")

/-- The fault of a row type without a schema. -/
def SchemaFault.fault : SchemaFault → Fault
  | noFields => .rowType
  | declaration flaw => flaw.fault

/-- A record type whose fields have names of their own that are identifiers and no words of the
grammar, and whose records do not share a default that may change. -/
def RecordType.checked (t : RecordType) : Except Fault RecordType :=
  let names := t.fields.map Field.name
  let isName (name : String) : Bool :=
    Text.isIdentifier name.toList && !TypeText.words.contains name
  if !names.all isName || names.eraseDups.length ≠ names.length then .error .wrongType
  else match t.sharedDefault? with
    | some (field, v) => .error (.sharedDefault field v.typeName)
    | none => .ok t

/-- The link of a value, which has to be a text that is not empty. -/
def Link.ofValue (v : Value) : Except Fault Link :=
  match v.asText?.bind Link.ofText? with
  | some link => .ok link
  | none => .error .emptyLink

/-- The record of values that are given by name, which have to fit the fields. -/
def Item.ofGiven (t : RecordType) (values : List (String × Value)) : Except Fault Item :=
  match t.record? (Json.ofMembers values) with
  | some r => .ok (.record r)
  | none => .error .wrongType

namespace BuildFault

/-- The message of a fault, if it has one. -/
def message? : BuildFault → Option String
  | emptyName => some "A field reference needs at least one non-empty name"
  | blankReference => some "field name must be a non-empty string"
  | noTruthValue => some ("Query expressions have no truth value; combine them with '&', '|' " ++
      "and '~' instead of 'and', 'or' and 'not'.")
  | _ => none

end BuildFault

namespace InvalidCall

/-- The fault of a builder call; that of a callable is its own. -/
def fault : InvalidCall → Fault
  | build fault => fault.fault
  | call => .invalid call

/-- The report of a builder call's fault, if it has one. -/
def report? : InvalidCall → Option Report
  | missing what => expression (what ++ " must not be None")
  | notBuilt what typeName =>
    expression (what ++ " must build a query expression, got " ++ typeName)
  | notAnExpression what typeName =>
    expression (what ++ " must be a query expression or a callable, got " ++ typeName)
  | notAReference what fault => expression (what ++ ": " ++ fault.message?.getD "")
  | emptySelection =>
    invalid "select requires at least one field" "validation_projection_empty"
  | skipCount display => invalid
      ("skip count must be a non-negative integer, got " ++ display) "validation_skip_negative"
  | takeCount display => invalid
      ("take count must be a positive integer, got " ++ display) "validation_take_not_positive"
  | noParameters => invalid "parameters must not be empty" "validation_parameters_empty"
  | blankParameterName =>
    invalid "parameter name must be a non-blank string" "validation_parameter_blank"
  | blankParameterValue name => invalid
      ("value of parameter '" ++ name ++ "' must be a non-blank string")
      "validation_parameter_blank"
  | reservedParameter name => invalid
      ("parameter name '" ++ name ++ "' is reserved; names must not start with '$' or '__'")
      "validation_parameter_reserved"
  | unusableParameterName => none
  | unusableColumnName => none
  | tooLong => none
  | build _ => none
where
  /-- A report with a message and the code of the cause. -/
  invalid (message subcode : String) : Option Report :=
    some (.validation (.text message) (.text subcode) [])
  /-- A report on an argument that is no expression. -/
  expression (message : String) : Option Report :=
    invalid message "validation_expression_invalid"

end InvalidCall

namespace Refusal

/-- The report of a refusal, if it has one. -/
def report? : Refusal → Option Report
  | unsupported construct clause reason =>
    some (.unsupported (.text construct) (Report.textOr clause) (.text reason.text))
  | unknownField name owner clause =>
    some (.unknownField (.text name) (Report.textOr owner) (Report.textOr clause))
  | beyondCalendar => none
  | arithmetic _ => none
  | tooLong => none
  | noName => none

end Refusal

namespace Required

/-- The message that something is missing. -/
def message : Required → String
  | baseUrl => "base_url is required."
  | endpoint => "endpoint is required."
  | table => "table is required."
  | scope => "scope is required."

end Required

/-- The statuses after which the same request may succeed. -/
def isTransientStatus (status : Int) : Bool :=
  status = 429 || status = 502 || status = 503 || status = 504

/-- The code of a status. -/
def statusSubcode (status : Int) : String :=
  "http_" ++ Text.ofInt status

/-- The codes of statuses that are documented. -/
def knownSubcodes : List String :=
  ([400, 401, 403, 404, 409, 410, 412, 415, 429, 500, 502, 503, 504] : List Int).map statusSubcode

namespace Fault

/-- The report of a fault, if it is one of the library's own. -/
def report? : Fault → Option Report
  | invalid call => call.report?
  | refused refusal => refusal.report?
  | cancelled fetched =>
    some (.cancelled (.text Report.cancelledMessage) [(.text "pages_fetched", .int fetched)])
  | http f => some (.http f.message (.int f.status) (.bool (isTransientStatus f.status))
      (.text (statusSubcode f.status)) (f.serviceCode.getD .null) (.text f.url)
      (Report.textOr f.excerpt) ((f.retryAfter.map .int).getD .null) [])
  | notJson address => some (.decode
      (.text ("Response from " ++ address ++ " is not JSON")) (.text "decode_not_json")
      [(.text "request_url", .text address)])
  | notAPage address flaw excerpt => some (.decode
      (.text ("Response from " ++ address ++ " is not a page of items: " ++ flaw.text))
      (.text "decode_not_a_page")
      [(.text "request_url", .text address), (.text "body_excerpt", .text excerpt)])
  | noCount table => some (.decode
      (.text ("The service did not return a count for table '" ++ table ++ "'"))
      (.text "decode_not_a_page") [])
  | _ => none

/-- The message of a fault without a report, if it has one. -/
def message? : Fault → Option String
  | build fault => fault.message?
  | invalid (.build fault) => fault.message?
  | invalid .tooLong => some Text.unwritableMessage
  | refused .tooLong => some Text.unwritableMessage
  | rowType => some "element_type must be a dataclass type, dict or None"
  | projectionTarget => some "into must be a dataclass type, dict or None"
  | unbound => some ("Cannot execute: query was not created via client.query.builder(). " ++
      "Use client.query.execute(table, query) instead.")
  | emptyLink => some "ContinuationLink requires a non-empty string"
  | .url fault => some fault.message
  | required what => some what.message
  | naming display => some ("Unsupported property_naming policy: " ++ display)
  | credential => some "credential must implement azure.core.credentials.TokenCredential."
  | integer fault => fault.message?
  | operand message => some message
  | unchangeable kindName => some (kindName ++ " is immutable")
  | sharedDefault field typeName => some ("mutable default <class '" ++ typeName ++
      "'> for field " ++ field ++ " is not allowed: use default_factory")
  | zeroStep => some "slice step cannot be zero"
  | duplicateKey display => some ("Duplicate key " ++ display ++ " in query results")
  | notARow typeName => some ("Cannot convert " ++ typeName ++ " to a DataFrame row")
  | outside _ message => some message
  | _ => none

end Fault

end PagedTables
