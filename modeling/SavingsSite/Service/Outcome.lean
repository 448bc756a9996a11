import SavingsSite.Accordion.Run
import SavingsSite.Fault
import SavingsSite.Http.Message
import SavingsSite.Json.Body
import SavingsSite.Routing.Table
import SavingsSite.Schema.Issue
import SavingsSite.Text.Charset
import SavingsSite.Text.Quoted
import SavingsSite.Text.Utf8

set_option autoImplicit false

/-! What an endpoint makes of a request: a response, or an exception. Some exceptions have an answer
of their own, and what is behind any other is a crash. -/

namespace SavingsSite.Service

open Text (Symbol)

/-- A failure that the site has no answer for. What a handler raises has the name of a class, any but
those of `Failure`, and a text. -/
inductive Crash where
  | raised (name text : String)
  | lost (fault : Routing.DispatchFault)
  | accordion (fault : AccordionFault QuotientFault)
  | unwritable (fault : Json.NumberFault)
  | unencodable (fault : Text.EncodeFault)
  | undecodable (fault : Text.Utf8Fault)

def Crash.message : Crash → String
  | raised _ text => text
  | lost (.digits fault) => fault.message
  | lost (.route fault) => fault.message
  | accordion fault => fault.message QuotientFault.message
  | unwritable fault => fault.message
  | unencodable fault => fault.message
  | undecodable fault => fault.message

/-- An exception that is raised with a message. The text of a key error shows it quoted. -/
def Crash.ofMessage (name message : String) : Crash :=
  .raised name (if name = "KeyError" then Text.quoted message else message)

structure Detail where
  code : String
  location : List Json
  message : String
  input : Json
  context : List (String × Json) := []

def Detail.ofIssue (part : String) (issue : Schema.Issue) : Detail where
  code := issue.kind.code
  location := Json.ofString part :: issue.path.map Schema.Step.toJson
  message := issue.kind.message
  input := issue.input
  context := issue.kind.context

def Detail.ofMalformed (reason : Json.Body.Reason) (offset : Nat) : Detail where
  code := "json_invalid"
  location := [Json.ofString "body", .whole offset]
  message := "JSON decode error"
  input := .record []
  context := [("error", Json.ofString reason.message)]

def Detail.bodyMissing : Detail where
  code := Schema.IssueKind.missing.code
  location := [Json.ofString "body"]
  message := Schema.IssueKind.missing.message
  input := .null

def isHiddenName (name : JsonString) : Bool :=
  [Symbol.char '_', .char 's', .char 'a'].isPrefixOf name.symbols

mutual

def shown : Json → Json
  | .list items => .list (shownItems items)
  | .record fields => .record (shownFields fields)
  | value => value

def shownItems : List Json → List Json
  | [] => []
  | value :: rest => shown value :: shownItems rest

def shownFields : List (JsonString × Json) → List (JsonString × Json)
  | [] => []
  | (name, value) :: rest =>
      if isHiddenName name then shownFields rest else (name, shown value) :: shownFields rest

end

def Detail.toJson (detail : Detail) : Json :=
  Json.ofFields ([
    ("type", Json.ofString detail.code),
    ("loc", .list detail.location),
    ("msg", Json.ofString detail.message),
    ("input", shown detail.input)] ++
    (if detail.context.isEmpty then [] else [("ctx", Json.ofFields detail.context)]))

/-- What may be raised while a request is handled: a fault of the site, a refusal with a status and
headers of its own, a report on input that is not valid, or anything else. -/
inductive Failure where
  | site (fault : SiteFault)
  | refused (status : Int) (detail : Json) (headers : List (String × String))
  | invalid (errors : List Json)
  | crash (crash : Crash)

inductive Outcome where
  | response (response : Http.Response)
  | failed (failure : Failure)

def Outcome.answer (content : Http.Content) : Outcome := .response { status := 200, content }

/-- The content of a JSON value. A value with a number that has no text, or with a lone half of a
pair, cannot be sent. -/
def writeJson (value : Json) : Except Crash Http.Content :=
  match value.numberFault? with
  | some fault => .error (.unwritable fault)
  | none =>
      match Text.encodeFault? .utf8 0 value.print with
      | some fault => .error (.unencodable fault)
      | none => .ok (.json value)

def jsonResponse (status : Int) (value : Json) (headers : List (String × String)) :
    Except Crash Http.Response :=
  (writeJson value).map fun content => { status, headers, content }

def headerFault? : List (String × String) → Option Text.EncodeFault
  | [] => none
  | (name, value) :: rest =>
      ((Text.encodeFault? .latin1 0 (Text.symbols name)).or
        (Text.encodeFault? .latin1 0 (Text.symbols value))).or (headerFault? rest)

def withHeaders (response : Http.Response) : Except Crash Http.Response :=
  match headerFault? response.headers with
  | some fault => .error (.unencodable fault)
  | none => .ok response

def isBodiless (status : Int) : Bool := status < 200 || [204, 205, 304].contains status

def refusal (status : Int) (detail : Json) (headers : List (String × String)) :
    Except Crash Http.Response :=
  if isBodiless status then withHeaders { status, headers, content := .empty }
  else
    match jsonResponse status (Json.ofFields [("detail", detail)]) headers with
    | .error crash => .error crash
    | .ok response => withHeaders response

def Outcome.respond : Outcome → Except Crash Http.Response
  | response ⟨status, headers, .json value⟩ => jsonResponse status value headers
  | response plain => .ok plain
  | failed (.site fault) => jsonResponse fault.status fault.body []
  | failed (.refused status detail headers) => refusal status detail headers
  | failed (.invalid errors) => jsonResponse 422 (Json.ofFields [("detail", .list errors)]) []
  | failed (.crash crash) => .error crash

end SavingsSite.Service
