import SavingsSite.Json.Printer
import SavingsSite.Text.Utf8

set_option autoImplicit false

/-! Requests and responses. -/

namespace SavingsSite.Http

/-- A request. Header names are in small letters; the path is decoded, the query is not. Both are
sent as UTF-8, the body as it is. -/
structure Request where
  method : String
  path : String
  query : String
  headers : List (String × String)
  body : Text.Bytes

def Request.header? (request : Request) (name : String) : Option String :=
  (request.headers.find? (·.1 = name)).map Prod.snd

inductive Content where
  | json (value : Json)
  | text (value : String)
  | page (value : String)
  | raw (media : Option String) (bytes : Text.Bytes)
  | empty

def Content.mediaType? : Content → Option String
  | json _ => some "application/json"
  | text _ => some "text/plain; charset=utf-8"
  | page _ => some "text/html; charset=utf-8"
  | raw media _ => media
  | empty => none

/-- A response. The names of its headers are in small letters. -/
structure Response where
  status : Int
  headers : List (String × String) := []
  content : Content

/-- All headers of a response but the length of its content. The media type of the content is one,
unless the response states another. -/
def Response.allHeaders (response : Response) : List (String × String) :=
  if response.headers.any (·.1 = "content-type") then response.headers
  else (response.content.mediaType?.map (("content-type", ·))).toList ++ response.headers

def valuesOf (name : String) (headers : List (String × String)) : List String :=
  (headers.filter (·.1 = name)).map Prod.snd

/-- The headers with one value for a name, in the place of its first one or else at the end. -/
def setValue (name value : String) : List (String × String) → List (String × String)
  | [] => [(name, value)]
  | header :: rest =>
      if header.1 = name then (name, value) :: rest.filter (·.1 ≠ name)
      else header :: setValue name value rest

def Response.setHeader (name value : String) (response : Response) : Response :=
  { response with headers := setValue name value response.headers }

def detailResponse (status : Int) (detail : String) : Response where
  status
  content := .json (Json.ofFields [("detail", Json.ofString detail)])

end SavingsSite.Http
