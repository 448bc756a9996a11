import SavingsSite.Fault
import SavingsSite.Log
import SavingsSite.Routing.Table
import SavingsSite.Settings.Basic
import SavingsSite.Text.Quoted

set_option autoImplicit false

/-! Composing feature modules into one application. Modules have unique names, and no route of one
overlaps a reserved path or a route of an earlier module for the same method. All routers are
built and checked before the first is mounted. -/

namespace SavingsSite

open Routing

def interfaceBase : String := "/api/v1"

/-- One slice of the interface: its router is built from the settings. -/
structure FeatureModule (α : Type) where
  name : String
  base : String := interfaceBase
  tags : List String := []
  build : Settings → Except RouteFault (List (Route α))

/-- A method and a path that belong to the application or to a module. -/
structure Owned where
  method : String
  path : String
  owner : String
  deriving DecidableEq, Repr

inductive ComposeFault where
  | duplicateNames (repeated names : List String)
  | overlap (method path module : String) (other : Owned) (names : List String)
  | route (fault : RouteFault)
  deriving DecidableEq, Repr

namespace ComposeFault

/-- The fault as the site reports it; a fault of a route is reported as it is. -/
def siteFault? : ComposeFault → Option SiteFault
  | duplicateNames repeated names =>
      some (.composition ("duplicate module names " ++ Text.quotedList repeated) names)
  | overlap method path module other names =>
      some (.composition (method ++ " " ++ path ++ " in '" ++ module ++ "' overlaps " ++
        other.path ++ " in '" ++ other.owner ++ "'") names)
  | route _ => none

def message (fault : ComposeFault) : String :=
  match fault, fault.siteFault? with
  | _, some site => site.message
  | route inner, none => inner.message
  | _, none => ""

end ComposeFault

namespace Composition

variable {α : Type}

def repeatedNames (names : List String) : List String :=
  Text.sortedStrings (names.filter fun name => 1 < names.count name)

def keyBelow (a b : String × String) : Bool := a.1 < b.1 || (a.1 = b.1 && a.2 < b.2)

/-- The methods and full paths of the interface routes of a router, in ascending order. -/
def routeKeys (base : String) (routes : List (Route α)) : List (String × String) :=
  Text.sortedSet keyBelow ((routes.filter Route.isInterface).flatMap fun route =>
    route.methods.map fun method => (method, base ++ route.path))

def firstOverlap (method path : String) : List Owned → Except TemplateFault (Option Owned)
  | [] => .ok none
  | other :: rest =>
      if other.method = method then
        match overlaps path other.path with
        | .error fault => .error fault
        | .ok true => .ok (some other)
        | .ok false => firstOverlap method path rest
      else firstOverlap method path rest

def checkKeys (names : List String) (module : String) (owned : List Owned) :
    List (String × String) → Except ComposeFault Unit
  | [] => .ok ()
  | (method, path) :: rest =>
      match firstOverlap method path owned with
      | .error fault => .error (.route (.template fault))
      | .ok (some other) => .error (.overlap method path module other names)
      | .ok none => checkKeys names module owned rest

structure Built (α : Type) where
  module : FeatureModule α
  routes : List (Route α)

def buildAll (settings : Settings) (names : List String) (owned : List Owned) :
    List (FeatureModule α) → Except ComposeFault (List (Built α))
  | [] => .ok []
  | m :: rest =>
      match m.build settings with
      | .error fault => .error (.route fault)
      | .ok routes =>
          let keys := routeKeys m.base routes
          match checkKeys names m.name owned keys with
          | .error fault => .error fault
          | .ok () =>
              let more := keys.map fun (method, path) => ⟨method, path, m.name⟩
              (buildAll settings names (owned ++ more) rest).map (⟨m, routes⟩ :: ·)

/-- The table of an application after some work on it, the log of the work, and the fault that
ended it early. -/
structure Mounting (α : Type) where
  table : List (Entry α)
  log : List LogRecord
  fault : Option RouteFault

def baseFault? (base : String) (routes : List (Route α)) : Option RouteFault :=
  if base = "" then
    if routes.any (·.path = "") then some .emptyPath else none
  else if !startsWithSlash base then some .baseNotRooted
  else if endsWithSlash base then some .baseEndsWithSlash
  else none

def mountRecord (m : FeatureModule α) : LogRecord :=
  ⟨"app.modules", .info, "Mounted module '" ++ m.name ++ "' at " ++ m.base⟩

def mountAll (mounted : List (Entry α)) : List (Built α) → Mounting α
  | [] => ⟨mounted, [], none⟩
  | b :: rest =>
      match baseFault? b.module.base b.routes with
      | some fault => ⟨mounted, [], some fault⟩
      | none =>
          let more := mountAll (mounted ++ Entry.ofRouter b.module.base b.routes) rest
          { more with log := mountRecord b.module :: more.log }

/-- The table of the application afterwards, the log, and the names of the modules or the fault. -/
structure Result (α : Type) where
  table : List (Entry α)
  log : List LogRecord
  answer : Except ComposeFault (List String)

/-- Composes modules onto the table of an application. `reserved` holds methods and paths that the
application owns. -/
def compose (mounted : List (Entry α)) (modules : List (FeatureModule α)) (settings : Settings)
    (reserved : List (String × String)) : Result α :=
  let names := modules.map FeatureModule.name
  let repeated := repeatedNames names
  if !repeated.isEmpty then ⟨mounted, [], .error (.duplicateNames repeated names)⟩
  else
    let owned := reserved.map fun (method, path) => ⟨method, path, "app"⟩
    match buildAll settings names owned modules with
    | .error fault => ⟨mounted, [], .error fault⟩
    | .ok built =>
        let work := mountAll mounted built
        match work.fault with
        | some fault => ⟨work.table, work.log, .error (.route fault)⟩
        | none => ⟨work.table, work.log, .ok names⟩

end Composition

end SavingsSite
