import SavingsSite.Routing.Route
import SavingsSite.Text.Blank

set_option autoImplicit false

/-! The choice of a route. The first route that fits the path and serves the method wins; else the
first that fits the path refuses the method; else a path that a route fits after a change of its
last slash leads to a redirect. -/

namespace SavingsSite.Routing

variable {α : Type}

/-- An entry of the table of an application: a route, or in its place a router whose full paths
are no templates, which nobody notices before a request comes this far. -/
inductive Entry (α : Type) where
  | route (route : Route α)
  | broken (fault : RouteFault)
  deriving Repr

/-- The entries of a router below its base. One path that is no template breaks them all. -/
def Entry.ofRouter (base : String) (routes : List (Route α)) : List (Entry α) :=
  match routes.mapM (Route.under base) with
  | .ok full => full.map Entry.route
  | .error fault => [.broken fault]

def Entry.routes : List (Entry α) → Except RouteFault (List (Route α))
  | [] => .ok []
  | .broken fault :: _ => .error fault
  | .route first :: rest => (Entry.routes rest).map (first :: ·)

inductive DispatchFault where
  | digits (fault : DigitFault)
  | route (fault : RouteFault)
  deriving DecidableEq, Repr

inductive Dispatch (α : Type) where
  | serve (route : Route α) (params : List (String × ParamValue))
  | refuse (route : Route α)
  | redirect (path : String)
  | missing
  | lost (fault : DispatchFault)

/-- The first full fit among the routes, else the first fit for other methods, which is `held` if
one came before these entries. -/
def search (method path : String) (held : Option (Route α)) :
    List (Entry α) → Option (Dispatch α)
  | [] => held.map .refuse
  | .broken fault :: _ => some (.lost (.route fault))
  | .route route :: rest =>
      match route.params? path with
      | none => search method path held rest
      | some (.error fault) => some (.lost (.digits fault))
      | some (.ok params) =>
          if route.serves method then some (.serve route params)
          else search method path (some (held.getD route)) rest

/-- The path without its last slashes when it ends with one, else with a slash at its end. -/
def otherPath (path : String) : String :=
  if endsWithSlash path then String.ofList (Text.trimEnd (· = '/') path.toList) else path ++ "/"

def redirectTo (path : String) : List (Entry α) → Dispatch α
  | [] => .missing
  | .broken fault :: _ => .lost (.route fault)
  | .route route :: rest =>
      match route.params? path with
      | none => redirectTo path rest
      | some (.error fault) => .lost (.digits fault)
      | some (.ok _) => .redirect path

def dispatch (table : List (Entry α)) (method path : String) : Dispatch α :=
  match search method path none table with
  | some outcome => outcome
  | none => if path = "/" then .missing else redirectTo (otherPath path) table

end SavingsSite.Routing
