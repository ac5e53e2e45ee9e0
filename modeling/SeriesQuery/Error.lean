import SeriesQuery.Query.Refusal

set_option autoImplicit false

/-!
# Errors

What can go wrong outside the grammar of one URI, how each error reads, and which status class a
transport should answer it with.
-/

namespace SeriesQuery

open SeriesQuery.Text

/-- A failure of the storage behind the queries. -/
inductive StorageError where
  | unavailable (message : String)
  /-- The table of a resolution cannot be built. -/
  | tableLoad (resolution : UInt32) (message : String)
  /-- A scan started and could not be completed. -/
  | scanFailed (message : String)
  deriving DecidableEq, Repr

def StorageError.message : StorageError → String
  | .unavailable message => "backend unavailable: " ++ message
  | .tableLoad resolution message =>
    "failed to load table for resolution " ++ Numeral.natText resolution.toNat ++ ": " ++ message
  | .scanFailed message => "scan failed: " ++ message

inductive Error where
  /-- The content type of a batch envelope is not supported. -/
  | unsupportedEncoding (contentType : String)
  /-- The body of a batch envelope is not a list of URIs, or it is too long. -/
  | malformedEnvelope (reason : String)
  | malformedQuery (uri reason : String)
  | storageUnavailable (cause : StorageError)
  /-- A setting or a fixture cannot be used. -/
  | configuration (message : String)
  | unreadable (message : String)
  deriving DecidableEq, Repr

def Error.message : Error → String
  | .unsupportedEncoding contentType => "Unsupported encoding: " ++ contentType
  | .malformedEnvelope reason => "Malformed envelope: " ++ reason
  | .malformedQuery uri reason => "Malformed query " ++ uri ++ ": " ++ reason
  | .storageUnavailable cause => "Storage unavailable: " ++ cause.message
  | .configuration message => "Configuration error: " ++ message
  | .unreadable message => "IO error: " ++ message

/-- The HTTP status that a transport should answer an error with. -/
def Error.status : Error → Nat
  | .unsupportedEncoding _ => 415
  | .malformedEnvelope _ => 400
  | .malformedQuery _ _ => 400
  | .storageUnavailable _ => 503
  | .configuration _ => 500
  | .unreadable _ => 500

/-- The error of a URI that is refused. -/
def Error.ofRefusal (uri : String) (refusal : Query.Refusal) : Error :=
  .malformedQuery uri refusal.reason

end SeriesQuery
