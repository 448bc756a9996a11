import SavingsSite.Composition.Compose
import SavingsSite.Service.Endpoint

set_option autoImplicit false

/-! The feature modules that the site ships with. -/

namespace SavingsSite.Service

open Routing

def interfaceRoutes : List (String × String × Endpoint) →
    Except RouteFault (List (Route Endpoint))
  | [] => .ok []
  | (method, path, endpoint) :: rest =>
      match Route.interface path [method] endpoint with
      | .error fault => .error fault
      | .ok route => (interfaceRoutes rest).map (route :: ·)

def fixedModule (name tag : String) (routes : List (String × String × Endpoint)) :
    FeatureModule Endpoint :=
  { name, tags := [tag], build := fun _ => interfaceRoutes routes }

def healthModule : FeatureModule Endpoint :=
  fixedModule "health" "Health" [
    ("GET", "/health", .health),
    ("GET", "/health/ready", .readiness),
    ("GET", "/health/live", .liveness)]

def chainModule : FeatureModule Endpoint :=
  fixedModule "blockchain" "Blockchain" [("GET", "/blockchain/status", .chainStatus)]

def faqModule : FeatureModule Endpoint :=
  fixedModule "faq" "FAQ" [
    ("GET", "/faq", .faqList),
    ("GET", "/faq/accordion", .accordion),
    ("POST", "/faq/accordion/toggle", .toggle)]

def contentModule : FeatureModule Endpoint :=
  fixedModule "content" "Content" [("GET", "/content/hero", .hero)]

def defaultModules : List (FeatureModule Endpoint) :=
  [healthModule, chainModule, faqModule, contentModule]

def rootRoutes : List (String × String) := [("GET", "/")]

end SavingsSite.Service
