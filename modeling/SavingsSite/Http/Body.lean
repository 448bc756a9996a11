import SavingsSite.Http.Message
import SavingsSite.Json.Body
import SavingsSite.Text.Blank
import SavingsSite.Text.Encoding

set_option autoImplicit false

/-! Bodies of requests. A body is read as JSON only when the content type says so. -/

namespace SavingsSite.Http

/-- The main part and the subtype of a content type, without its parameters. -/
def mediaParts? (contentType : String) : Option (List Char × List Char) :=
  let plain := Text.trim Text.isBlank (contentType.toList.takeWhile (· ≠ ';'))
  match Text.splitOn '/' (plain.map Char.toLower) with
  | [main, sub] => some (main, sub)
  | _ => none

def isJsonType (contentType : String) : Bool :=
  match mediaParts? contentType with
  | some (main, sub) =>
      main = "application".toList &&
        (sub = "json".toList || "+json".toList.isSuffixOf sub)
  | none => false

inductive BodyValue where
  | absent
  | json (value : Json)
  | raw (bytes : Text.Bytes)
  | malformed (reason : Json.Body.Reason) (offset : Nat)
  | unreadable

def Request.bodyValue (request : Request) : BodyValue :=
  if request.body.isEmpty then .absent
  else if isJsonType ((request.header? "content-type").getD "") then
    match Text.decodeDetected (Text.values request.body) with
    | none => .unreadable
    | some symbols =>
        match Json.Body.read symbols with
        | .ok value => .json value
        | .error (.malformed reason offset) => .malformed reason offset
        | .error .overLimit => .unreadable
  else .raw request.body

end SavingsSite.Http
