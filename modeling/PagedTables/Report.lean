import PagedTables.Filter.Refusal
import PagedTables.Json.Basic
import PagedTables.Value.Equality
import PagedTables.Value.Text

/-!
# Error reports

What the library tells a program about an error of its own: a message, a code for the kind of
error and one for the cause, the status of a response, named details, where the error comes from
and whether trying again may help. An empty source counts as the client.

A program may also make a report itself, from values of any type. The reports that the library
makes are the same functions of texts and numbers.
-/
namespace PagedTables

/-- The kinds of errors that are reported. -/
inductive ReportKind where
  | general
  | validation
  | inexpressible
  | unsupported
  | unknownField
  | http
  | decode
  | cancelled
  deriving DecidableEq

namespace ReportKind

/-- The kinds in order. -/
def all : List ReportKind :=
  [general, validation, inexpressible, unsupported, unknownField, http, decode, cancelled]

/-- The name of a kind of errors. -/
def name : ReportKind → String
  | general => "DatasyncError"
  | validation => "ValidationError"
  | inexpressible => "QueryTranslationError"
  | unsupported => "UnsupportedExpressionError"
  | unknownField => "UnknownFieldError"
  | http => "HttpError"
  | decode => "ResponseDecodeError"
  | cancelled => "OperationCancelledError"

/-- The kind of a name. -/
def ofName? (name : String) : Option ReportKind :=
  all.find? fun kind => kind.name = name

end ReportKind

/-- A report of an error. -/
structure Report where
  kind : ReportKind
  /-- A text, or whatever a service or a program gives in its place. -/
  message : Value
  code : Value
  subcode : Value
  status : Value
  /-- A dictionary, or whatever a program gives in its place. -/
  details : Value
  source : Value
  isTransient : Value
  /-- The construct that has no filter. -/
  construct : Value
  /-- The part of the query in which the construct stands. -/
  clause : Value
  /-- The field that is not known. -/
  field : Value

/-- The named details of an error. -/
abbrev Details := List (Value × Value)

namespace Report

/-- Details with one more, unless it is null, in place of one of the same name. -/
def detail (name : String) (value : Value) (details : Details) : Details :=
  match value with
  | .null => details
  | value => Value.insertEntry (.text name) value details

/-- A text, or null. -/
def textOr (s : Option String) : Value :=
  (s.map .text).getD .null

/-- A report of any kind. -/
def general (message code subcode status : Value) (details : Details)
    (source isTransient : Value) : Report where
  kind := .general
  message := message
  code := code
  subcode := subcode
  status := status
  details := .dict details
  source := if source.isTruthy then source else .text "client"
  isTransient := isTransient
  construct := .null
  clause := .null
  field := .null

/-- An argument of a builder call is not valid. -/
def validation (message subcode : Value) (details : Details) : Report :=
  { general message (.text "validation_error") subcode .null details (.text "client")
      (.bool false) with
    kind := .validation }

/-- A query cannot be put into words that a service understands. -/
def inexpressible (message subcode construct clause : Value) (details : Details) : Report :=
  let details := detail "clause" clause (detail "construct" construct details)
  { general message (.text "translation_error") subcode .null details (.text "client")
      (.bool false) with
    kind := .inexpressible, construct := construct, clause := clause }

/-- A construct is not supported. -/
def unsupported (construct clause reason : Value) : Report :=
  let place := if clause.isTruthy then " in a '" ++ clause.toText ++ "' clause" else ""
  let because := if reason.isTruthy then ": " ++ reason.toText else ""
  let message := "'" ++ construct.toText ++ "' is not supported" ++ place ++ because
  { inexpressible (.text message) (.text "translation_unsupported") construct clause [] with
    kind := .unsupported }

/-- A field is not known. -/
def unknownField (name owner clause : Value) : Report :=
  let place := if owner.isTruthy then " on '" ++ owner.toText ++ "'" else ""
  let message := "Unknown field '" ++ name.toText ++ "'" ++ place
  let details := if owner.isTruthy then detail "element_type" owner [] else []
  { inexpressible (.text message) (.text "translation_unknown_field") name clause details with
    kind := .unknownField, field := name }

/-- A service answered with a status other than success. -/
def http (message status isTransient subcode serviceCode url excerpt retryAfter : Value)
    (details : Details) : Report :=
  let details := detail "retry_after" retryAfter
    (detail "body_excerpt" excerpt
      (detail "request_url" url (detail "service_error_code" serviceCode details)))
  { general message (.text "http_error") subcode status details (.text "server") isTransient with
    kind := .http }

/-- A response is not a page. -/
def decode (message subcode : Value) (details : Details) : Report :=
  { general message (.text "decode_error") subcode .null details (.text "server")
      (.bool false) with
    kind := .decode }

/-- A traversal was cancelled. -/
def cancelled (message : Value) (details : Details) : Report :=
  { general message (.text "cancelled") .null .null details (.text "client") (.bool false) with
    kind := .cancelled }

/-- The display of a report: its kind, its codes and its message. -/
def display (r : Report) : String :=
  r.kind.name ++ "(code=" ++ r.code.display ++ ", subcode=" ++ r.subcode.display ++
    ", message=" ++ r.message.display ++ ")"

/-- The message of a cancelled traversal. -/
def cancelledMessage : String := "The paged query was cancelled"

end Report

/-- The arguments that a report of a kind is made of. -/
structure ReportArguments where
  /-- The arguments that may be given by position. -/
  ordered : List String
  /-- The arguments that are given by name only. -/
  named : List String
  required : List String

namespace ReportKind

/-- The arguments of a kind. -/
def arguments : ReportKind → ReportArguments
  | general => ⟨["message"],
      ["code", "subcode", "status_code", "details", "source", "is_transient"],
      ["message", "code"]⟩
  | validation => ⟨["message"], ["subcode", "details"], ["message"]⟩
  | inexpressible =>
    ⟨["message"], ["subcode", "construct", "clause", "details"], ["message", "subcode"]⟩
  | unsupported => ⟨["construct"], ["clause", "reason"], ["construct"]⟩
  | unknownField => ⟨["field_name"], ["element_type", "clause"], ["field_name"]⟩
  | http => ⟨["message", "status_code", "is_transient", "subcode", "service_error_code",
      "request_url", "body_excerpt", "retry_after", "details"], [], ["message", "status_code"]⟩
  | decode => ⟨["message"], ["subcode", "details"], ["message"]⟩
  | cancelled => ⟨["message"], ["details"], []⟩

end ReportKind

namespace ReportArguments

/-- The arguments by name; each is one of the kind's and given once, and none is left out that has
to be given. -/
def bind? (a : ReportArguments) (values : List Value) (named : List (String × Value)) :
    Option (List (String × Value)) :=
  let all := a.ordered.zip values ++ named
  let isKnown (name : String) : Bool := a.ordered.contains name || a.named.contains name
  let isTwice (name : String) : Bool := (a.ordered.take values.length).contains name
  if a.ordered.length < values.length || !named.all (fun v => isKnown v.1 && !isTwice v.1) ||
      !a.required.all fun name => (all.lookup name).isSome then none
  else some all

end ReportArguments

namespace Report

/-- The report of a kind that is made of named arguments, but for details that are none. -/
def ofNamed (kind : ReportKind) (given : List (String × Value)) (details : Details) : Report :=
  let value (name : String) : Value := (given.lookup name).getD .null
  let isTransient := (given.lookup "is_transient").getD (.bool false)
  match kind with
  | .general => general (value "message") (value "code") (value "subcode") (value "status_code")
      details (value "source") isTransient
  | .validation => validation (value "message") (value "subcode") details
  | .inexpressible => inexpressible (value "message") (value "subcode") (value "construct")
      (value "clause") details
  | .unsupported => unsupported (value "construct") (value "clause") (value "reason")
  | .unknownField => unknownField (value "field_name") (value "element_type") (value "clause")
  | .http => http (value "message") (value "status_code") isTransient (value "subcode")
      (value "service_error_code") (value "request_url") (value "body_excerpt")
      (value "retry_after") details
  | .decode => decode (value "message") (value "subcode") details
  | .cancelled => cancelled ((given.lookup "message").getD (.text cancelledMessage)) details

/--
The report of a kind that a program makes. Details that are no dictionary are kept as they are, but
nothing can be added to them.
-/
def ofArguments? (kind : ReportKind) (values : List Value) (named : List (String × Value)) :
    Option Report := do
  let given ← kind.arguments.bind? values named
  match (given.lookup "details").getD .null with
  | .dict entries => some (ofNamed kind given entries)
  | details =>
    let r := ofNamed kind given []
    if !details.isTruthy then some r
    else if r.details.isTruthy then none
    else some { r with details := details }

end Report

end PagedTables
