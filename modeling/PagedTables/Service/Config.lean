import PagedTables.Fault

/-!
# Configuration

How a client talks to a service: what it says about itself, which policy names fields, how often
and how patiently it tries again, and how long it waits for an answer. Only the policy is checked
when settings are made; the others are kept as they are given, and null leaves a setting out.
-/
namespace PagedTables

namespace Naming

/-- The policy that a configuration names. -/
def ofValue (v : Value) : Except Fault Naming :=
  match v with
  | .null => .ok .verbatim
  | v => if v.asText? = some "camelCase" then .ok .camelCase else .error (.naming v.display)

/-- The value that names a policy. -/
def toValue : Naming → Value
  | camelCase => .text "camelCase"
  | verbatim => .null

end Naming

/-- The settings of a client. -/
structure Config where
  apiVersion : Value
  naming : Naming
  userAgent : Value
  installation : Value
  /-- The scope of tokens, if it is not the default one of the service. -/
  scope : Value
  /-- How often a request is sent at most. -/
  attempts : Value
  /-- The time to wait before a request is sent a second time. -/
  backoff : Value
  /-- How long to wait for a response. -/
  timeout : Value

namespace Config

/-- The settings that hold unless others are made. -/
def default : Config where
  apiVersion := .text "3.0.0"
  naming := .camelCase
  userAgent := .null
  installation := .null
  scope := .null
  attempts := .null
  backoff := .null
  timeout := .null

/-- The settings by name. -/
def settings (c : Config) : List (String × Value) :=
  [("api_version", c.apiVersion), ("property_naming", c.naming.toValue),
    ("user_agent", c.userAgent), ("installation_id", c.installation), ("auth_scope", c.scope),
    ("http_retries", c.attempts), ("http_backoff", c.backoff), ("http_timeout", c.timeout)]

/-- The settings that are made by name; the others are the default ones. -/
def ofSettings (given : List (String × Value)) : Except Fault Config :=
  if given.any fun setting => (default.settings.lookup setting.1).isNone then .error .wrongType
  else do
    let setting (name : String) (value : Value) : Value := (given.lookup name).getD value
    return {
      apiVersion := setting "api_version" default.apiVersion
      naming := ← Naming.ofValue (setting "property_naming" default.naming.toValue)
      userAgent := setting "user_agent" default.userAgent
      installation := setting "installation_id" default.installation
      scope := setting "auth_scope" default.scope
      attempts := setting "http_retries" default.attempts
      backoff := setting "http_backoff" default.backoff
      timeout := setting "http_timeout" default.timeout }

end Config

end PagedTables
