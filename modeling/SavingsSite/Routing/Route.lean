import SavingsSite.Routing.Template
import SavingsSite.Text.Capital

set_option autoImplicit false

/-! Routes: a template, the methods it serves, and an endpoint. A route of the interface takes part
in the check of overlaps; a plain route does not, and serves HEAD along with GET. -/

namespace SavingsSite.Routing

inductive RouteKind where
  | interface
  | plain
  deriving DecidableEq, Repr

structure Route (α : Type) where
  kind : RouteKind
  path : String
  template : Template
  methods : List String
  endpoint : α
  deriving Repr

inductive RouteFault where
  | template (fault : TemplateFault)
  | noMethods
  | notRooted
  | baseNotRooted
  | baseEndsWithSlash
  | emptyPath
  deriving DecidableEq, Repr

def RouteFault.message : RouteFault → String
  | template fault => fault.message
  | noMethods => ""
  | notRooted => "Routed paths must start with '/'"
  | baseNotRooted => "A path prefix must start with '/'"
  | baseEndsWithSlash =>
      "A path prefix must not end with '/', as the routes will start with '/'"
  | emptyPath => "Prefix and path cannot be both empty (path operation: endpoint)"

def methodSet (methods : List String) : List String :=
  Text.sortedStrings (methods.map Text.capitals)

def startsWithSlash (path : String) : Bool := path.toList.head? = some '/'

def endsWithSlash (path : String) : Bool := path.toList.getLast? = some '/'

namespace Route

variable {α : Type}

def interface (path : String) (methods : List String) (endpoint : α) :
    Except RouteFault (Route α) :=
  match Template.ofPath path with
  | .error fault => .error (.template fault)
  | .ok template =>
      if methods.isEmpty then .error .noMethods
      else .ok ⟨.interface, path, template, methodSet methods, endpoint⟩

def plainMethods (methods : List String) : List String :=
  let all := methods.map Text.capitals
  methodSet (if all.contains "GET" then "HEAD" :: all else all)

def plain (path : String) (methods : List String) (endpoint : α) :
    Except RouteFault (Route α) :=
  if !startsWithSlash path then .error .notRooted
  else
    match Template.ofPath path with
    | .error fault => .error (.template fault)
    | .ok template => .ok ⟨.plain, path, template, plainMethods methods, endpoint⟩

def under (base : String) (route : Route α) : Except RouteFault (Route α) :=
  match route.kind with
  | .interface => interface (base ++ route.path) route.methods route.endpoint
  | .plain => plain (base ++ route.path) route.methods route.endpoint

def isInterface (route : Route α) : Bool := route.kind = .interface

def serves (route : Route α) (method : String) : Bool :=
  route.methods.isEmpty || route.methods.contains method

def valuesOf : List Template.Capture → Except DigitFault (List (String × ParamValue))
  | [] => .ok []
  | c :: rest =>
      match c.kind.value c.taken with
      | .error fault => .error fault
      | .ok value => (valuesOf rest).map ((c.name, value) :: ·)

def params? (route : Route α) (path : String) :
    Option (Except DigitFault (List (String × ParamValue))) :=
  (Template.captures? route.template path.toList).map valuesOf

end Route

end SavingsSite.Routing
