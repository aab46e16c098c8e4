/-
# Errors

What can go wrong while zones are reconciled, by cause. The wording of each error
is in `Error.message`. An error of validation or configuration means that the
settings are at fault; all others arise from what a provider did or answered.
-/

import DnsReconcile.Json.Source
import DnsReconcile.Record.Type

namespace DnsReconcile

/-- Why an operation failed. -/
inductive Error where
  /-- A record that no zone can hold, or that the zone's settings forbid. -/
  | validation (label : String) (type : RecordType) (reason : String)
  /-- Record sets that cannot be compared. -/
  | diff (detail : String)
  /-- Settings that make no sense. -/
  | config (detail : String)
  /-- A file that cannot be read. -/
  | file
  /-- A text that is not the JSON it should be. -/
  | json (fault : Json.Fault)
  /-- A request that got no reply. -/
  | http (detail : String)
  | authentication (detail : String)
  | rateLimited (detail : String)
  | notFound (detail : String)
  | unsupported (detail : String)
  /-- A refusal in a provider's own words. -/
  | provider (name detail : String)
  | other (detail : String)
deriving Repr, DecidableEq

namespace Error

/-- The wording of an error. -/
def message : Error → String
  | .validation label type reason =>
      "Validation failed for " ++ type.name ++ " record '" ++ label ++ "': " ++ reason
  | .diff detail => "Diff error: " ++ detail
  | .config detail => "Configuration error: " ++ detail
  | .file => "I/O error"
  | .json (.shape (some reason)) => "JSON error: " ++ reason
  | .json _ => "JSON error"
  | .http detail => "HTTP error: " ++ detail
  | .authentication detail => "Authentication failed: " ++ detail
  | .rateLimited detail => "Rate limited: " ++ detail
  | .notFound detail => "Not found: " ++ detail
  | .unsupported detail => "Unsupported: " ++ detail
  | .provider name detail => "Provider error (" ++ name ++ "): " ++ detail
  | .other detail => detail

/-- Whether the settings are at fault. -/
def isValidation : Error → Bool
  | .validation .. => true
  | .config _ => true
  | _ => false

end Error

end DnsReconcile
