import SavingsSite.Http.Message

set_option autoImplicit false

/-! Answers to other origins. A request that names its origin gets an answer that says whether a
page of that origin may read it, and a preflight request is answered without the application. -/

namespace SavingsSite.Http.Cors

inductive Policy where
  | all
  | listed (origins : List String)
  deriving DecidableEq, Repr

def Policy.ofList (origins : List String) : Policy :=
  if origins.contains "*" then all else listed origins

def Policy.allows : Policy → String → Bool
  | all, _ => true
  | listed origins, origin => origins.contains origin

def methods : List String := ["DELETE", "GET", "HEAD", "OPTIONS", "PATCH", "POST", "PUT"]

def maxAge : Nat := 600

def originHeader : String := "access-control-allow-origin"

def credentialsHeader : String := "access-control-allow-credentials"

def isPreflight (request : Request) : Bool :=
  request.method = "OPTIONS" && (request.header? "access-control-request-method").isSome

def failures (policy : Policy) (request : Request) (origin : String) : List String :=
  (if policy.allows origin then [] else ["origin"]) ++
  (if methods.contains ((request.header? "access-control-request-method").getD "") then []
    else ["method"]) ++
  (if (request.header? "access-control-request-private-network").isSome then ["private-network"]
    else [])

def preflight (policy : Policy) (request : Request) (origin : String) : Response :=
  let refused := failures policy request origin
  let granted := if policy.allows origin then [(originHeader, origin)] else []
  let echoed :=
    match request.header? "access-control-request-headers" with
    | some names => [("access-control-allow-headers", names)]
    | none => []
  let fixed := [
    ("vary", "Origin"),
    ("access-control-allow-methods", ", ".intercalate methods),
    ("access-control-max-age", toString maxAge),
    (credentialsHeader, "true")]
  if refused.isEmpty then ⟨200, fixed ++ granted ++ echoed, .text "OK"⟩
  else
    ⟨400, fixed ++ granted ++ echoed, .text ("Disallowed CORS " ++ ", ".intercalate refused)⟩

/-- A response that names an origin, and says that it varies with it besides what it varies with
already. -/
def nameOrigin (origin : String) (response : Response) : Response :=
  let varies := (valuesOf "vary" response.headers).head?.toList ++ ["Origin"]
  (response.setHeader originHeader origin).setHeader "vary" (", ".intercalate varies)

/-- An ordinary answer as another origin receives it. The origin is named only when the policy lists
origins or the request carries a cookie. -/
def grant (policy : Policy) (request : Request) (origin : String) (response : Response) :
    Response :=
  match policy with
  | .all =>
      let forAll := (response.setHeader originHeader "*").setHeader credentialsHeader "true"
      if (request.header? "cookie").isSome then nameOrigin origin forAll else forAll
  | .listed _ =>
      let trusting := response.setHeader credentialsHeader "true"
      if policy.allows origin then nameOrigin origin trusting else trusting

end SavingsSite.Http.Cors
