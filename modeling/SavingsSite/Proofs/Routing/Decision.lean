import SavingsSite.Proofs.Routing.Router

set_option autoImplicit false

/-! The first entry that decides a request. Which endpoint gets the request, and with which
parameters, depends on this entry alone; it decides as it would in a table of its own. -/

namespace SavingsSite.Routing

variable {α : Type}

def Dispatch.served : Dispatch α → Option (α × List (String × ParamValue))
  | .serve route params => some (route.endpoint, params)
  | _ => none

/-- What an entry makes of a request that reaches it. A route that does not fit, or that serves
other methods, lets the request pass. -/
def Entry.decision (method path : String) : Entry α → Option (Dispatch α)
  | .broken fault => some (.lost (.route fault))
  | .route r =>
      match r.params? path with
      | none => none
      | some (.error fault) => some (.lost (.digits fault))
      | some (.ok params) => if r.serves method then some (.serve r params) else none

/-- What the first deciding entry of a table makes of a request. -/
def decision (method path : String) (table : List (Entry α)) : Option (Dispatch α) :=
  table.findSome? (Entry.decision method path)

theorem decision_append (method path : String) (first rest : List (Entry α)) :
    decision method path (first ++ rest) =
      (decision method path first).or (decision method path rest) :=
  List.findSome?_append

theorem decision_flatMap {β : Type} (method path : String) (parts : List β)
    (entries : β → List (Entry α)) :
    decision method path (parts.flatMap entries) =
      parts.findSome? fun part => decision method path (entries part) := by
  induction parts with
  | nil => rfl
  | cons part rest ih =>
      rw [List.flatMap_cons, decision_append, ih, List.findSome?_cons]
      cases decision method path (entries part) with
      | none => rfl
      | some found => rfl

theorem search_of_decision {method path : String} {table : List (Entry α)} {found : Dispatch α}
    (decided : decision method path table = some found) (held : Option (Route α)) :
    search method path held table = some found := by
  induction table generalizing held with
  | nil => cases decided
  | cons entry rest ih =>
      rw [decision, List.findSome?_cons] at decided
      cases entry with
      | broken fault => exact decided
      | route route =>
          simp only [Entry.decision] at decided
          simp only [search]
          cases fitted : route.params? path with
          | none =>
              simp only [fitted] at decided
              exact ih decided held
          | some answer =>
              cases answer with
              | error fault =>
                  simp only [fitted] at decided
                  exact decided
              | ok params =>
                  simp only [fitted] at decided
                  cases serves : route.serves method with
                  | true =>
                      simp only [serves, if_true] at decided
                      exact decided
                  | false =>
                      simp only [serves, Bool.false_eq_true, if_false] at decided
                      exact ih decided _

theorem search_of_undecided {method path : String} {table : List (Entry α)}
    (undecided : decision method path table = none) (held : Option (Route α)) :
    search method path held table = none ∨
      ∃ route, search method path held table = some (.refuse route) := by
  induction table generalizing held with
  | nil =>
      cases held with
      | none => exact Or.inl rfl
      | some route => exact Or.inr ⟨route, rfl⟩
  | cons entry rest ih =>
      rw [decision, List.findSome?_eq_none_iff, List.forall_mem_cons] at undecided
      obtain ⟨here, later⟩ := undecided
      have passed := ih (List.findSome?_eq_none_iff.mpr later)
      cases entry with
      | broken fault => cases here
      | route route =>
          simp only [Entry.decision] at here
          simp only [search]
          cases fitted : route.params? path with
          | none => exact passed held
          | some answer =>
              cases answer with
              | error fault =>
                  simp only [fitted] at here
                  cases here
              | ok params =>
                  simp only [fitted] at here
                  cases serves : route.serves method with
                  | true =>
                      simp only [serves, if_true] at here
                      cases here
                  | false => exact passed _

theorem redirectTo_served (path : String) (table : List (Entry α)) :
    (redirectTo path table).served = none := by
  induction table with
  | nil => rfl
  | cons entry rest ih =>
      cases entry with
      | broken fault => rfl
      | route route =>
          simp only [redirectTo]
          cases route.params? path with
          | none => exact ih
          | some answer =>
              cases answer with
              | error fault => rfl
              | ok params => rfl

theorem served_dispatch (table : List (Entry α)) (method path : String) :
    (dispatch table method path).served = (decision method path table).bind Dispatch.served := by
  unfold dispatch
  cases decided : decision method path table with
  | some found => simp only [search_of_decision decided none, Option.bind_some]
  | none =>
      rw [Option.bind_none]
      rcases search_of_undecided decided none with silent | ⟨route, refused⟩
      · simp only [silent]
        split
        · rfl
        · exact redirectTo_served (otherPath path) table
      · simp only [refused, Dispatch.served]

theorem decision_of_entry {entry : Entry α} {method path : String} {found : Dispatch α}
    (decided : entry.decision method path = some found) :
    (∃ fault, found = .lost fault) ∨
      ∃ route params, entry = .route route ∧ found = .serve route params ∧
        route.template.fits path.toList = true ∧ route.serves method = true := by
  cases entry with
  | broken fault =>
      cases decided
      exact Or.inl ⟨_, rfl⟩
  | route route =>
      simp only [Entry.decision] at decided
      cases fitted : route.params? path with
      | none =>
          simp only [fitted] at decided
          cases decided
      | some answer =>
          cases answer with
          | error fault =>
              simp only [fitted] at decided
              cases decided
              exact Or.inl ⟨_, rfl⟩
          | ok params =>
              simp only [fitted] at decided
              cases serves : route.serves method with
              | false =>
                  simp only [serves, Bool.false_eq_true, if_false] at decided
                  cases decided
              | true =>
                  simp only [serves, if_true] at decided
                  cases decided
                  exact Or.inr ⟨route, params, rfl, rfl, Route.fits_of_params fitted, serves⟩

end SavingsSite.Routing
