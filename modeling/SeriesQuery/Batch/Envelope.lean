import SeriesQuery.Answer
import SeriesQuery.Error
import SeriesQuery.Text.Blank
import SeriesQuery.Text.Letter
import SeriesQuery.Text.Split

set_option autoImplicit false

/-!
# Batch envelopes

A batch comes as a JSON array of URIs under the content type `application/json` and is answered by
one envelope for each URI, which holds the URI as it was given and either an answer or the words of
an error.
-/

namespace SeriesQuery.Batch

open SeriesQuery.Text

/-- The answer to one item of a batch. -/
structure Envelope where
  path : String
  result : Option Answer
  /-- The words of the error, if it failed. -/
  error : Option String
  deriving DecidableEq, Repr

namespace Envelope

def ofOutcome (path : String) : Except Error Answer → Envelope
  | .ok answer => ⟨path, some answer, none⟩
  | .error error => ⟨path, none, some error.message⟩

def isError (envelope : Envelope) : Bool :=
  envelope.error.isSome

def toJson (envelope : Envelope) : Json :=
  Json.ofMembers [
    ("path", Json.ofText envelope.path),
    ("result", (envelope.result.map Answer.toJson).getD .null),
    ("error", Json.ofText? envelope.error)]

/-- The envelope that a JSON record writes. In an object the answer and the error may be left out.
-/
def ofJson? (json : Json) : Option Envelope := do
  match ← json.record? ["path", "result", "error"] 3 with
  | [path, result, error] =>
    return ⟨← (← path).toText?,
      ← Json.orDefault none (Json.toOption? (Answer.ofJsonAt? 1)) result,
      ← Json.orDefault none (Json.toOption? Json.toText?) error⟩
  | _ => none

end Envelope

def mediaType : String := "application/json"

/-- Whether a content type is that of a batch. Parameters after a semicolon do not count. -/
def isMediaType (contentType : String) : Bool :=
  sameLetters (String.ofList (trim (cut ';' contentType.toList).1)) mediaType

/-- The URIs in the body of a batch; none if it is not a JSON array of strings. -/
def readUris? (body : List UInt8) : Option (List String) := do
  (← Json.readBytes? body).toList? Json.toText?

/-- The URIs of a batch. The content type is looked at first, then the body, then the number of
URIs. An absent content type counts as an empty one. -/
def decode (maxItems : Nat) (contentType : Option String) (body : List UInt8) :
    Except Error (List String) :=
  let given := contentType.getD ""
  if isMediaType given then
    match readUris? body with
    | none => .error (.malformedEnvelope "the body is not a JSON array of strings")
    | some uris =>
      if maxItems < uris.length then
        .error (.malformedEnvelope
          (Numeral.natText uris.length ++ " items exceed the limit of " ++
            Numeral.natText maxItems))
      else .ok uris
  else .error (.unsupportedEncoding (if given = "" then "<none>" else given))

end SeriesQuery.Batch
