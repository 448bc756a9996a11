import SavingsSite.Proofs.Text.Parts
import SavingsSite.Routing.Table

set_option autoImplicit false

/-! Tables of routes without parameters. The template of such a route fits its own text, and the text
with a line end after it, so no request is lost in the table, and what becomes of it is read off the
texts of the routes. -/

namespace SavingsSite.Routing

variable {α : Type}

def IsAt (text path : String) : Prop :=
  path.toList = text.toList ∨ path.toList = text.toList ++ ['\n']

instance (text path : String) : Decidable (IsAt text path) :=
  inferInstanceAs (Decidable (_ ∨ _))

theorem eq_of_isAt {text path : String} (here : IsAt text path) :
    path = text ∨ path = text ++ "\n" := by
  refine here.imp String.toList_inj.mp fun behind => String.toList_inj.mp ?_
  rw [behind, String.toList_append]
  rfl

theorem eq_of_isAt_of_isAt {a b path : String} (aPlain : '\n' ∉ a.toList) (bPlain : '\n' ∉ b.toList)
    (aHere : IsAt a path) (bHere : IsAt b path) : a = b := by
  apply String.toList_inj.mp
  rcases aHere with atA | behindA
  · rcases bHere with atB | behindB
    · exact atA.symm.trans atB
    · refine absurd ?_ aPlain
      rw [← atA, behindB]
      exact List.mem_append_right _ List.mem_cons_self
  · rcases bHere with atB | behindB
    · refine absurd ?_ bPlain
      rw [← atB, behindA]
      exact List.mem_append_right _ List.mem_cons_self
    · exact List.append_cancel_right (behindA.symm.trans behindB)

/-- The template of the route is the text of its path. -/
def Route.IsLiteral (r : Route α) : Prop :=
  r.template = r.path.toList.map .char

def Entry.IsLiteral : Entry α → Prop
  | .route r => r.IsLiteral
  | .broken _ => False

theorem captures?_literal (text path : List Char) :
    Template.captures? (text.map .char) path =
      if path = text ∨ path = text ++ ['\n'] then some [] else none := by
  induction text generalizing path with
  | nil =>
      simp only [List.map_nil, Template.captures?, List.nil_append, Bool.or_eq_true,
        decide_eq_true_eq]
  | cons c rest ih =>
      cases path with
      | nil =>
          simp only [List.map_cons, Template.captures?, List.cons_append, reduceCtorEq, or_self,
            if_false]
      | cons d more =>
          simp only [List.map_cons, Template.captures?, ih, List.cons_append, List.cons.injEq]
          by_cases same : d = c
          · simp only [same, true_and, if_true]
          · simp only [same, false_and, or_self, if_false]

theorem Route.IsLiteral.params? {route : Route α} (literal : route.IsLiteral) (path : String) :
    route.params? path = if IsAt route.path path then some (.ok []) else none := by
  rw [Route.params?, literal, captures?_literal, apply_ite (Option.map valuesOf)]
  rfl

def Unlisted (table : List (Entry α)) (path : String) : Prop :=
  ∀ route : Route α, .route route ∈ table → ¬ IsAt route.path path

theorem unlisted_cons_iff (route : Route α) (rest : List (Entry α)) (path : String) :
    Unlisted (.route route :: rest) path ↔ ¬ IsAt route.path path ∧ Unlisted rest path := by
  constructor
  · intro nowhere
    exact ⟨nowhere route List.mem_cons_self,
      fun other listed => nowhere other (List.mem_cons_of_mem _ listed)⟩
  · rintro ⟨notHere, nowhere⟩ other listed
    rcases List.mem_cons.mp listed with same | later
    · cases same
      exact notHere
    · exact nowhere other later

/-- What a table makes of a request without losing it: a route at the path serves or refuses it, or
there is none, and a route at the path with its last slash changed has it sent there. -/
inductive Kept (table : List (Entry α)) (method path : String) : Dispatch α → Prop
  | serve (route : Route α) (listed : .route route ∈ table) (here : IsAt route.path path)
      (serves : route.serves method = true) : Kept table method path (.serve route [])
  | refuse (route : Route α) (listed : .route route ∈ table) (here : IsAt route.path path)
      (refuses : route.serves method = false) : Kept table method path (.refuse route)
  | redirect (route : Route α) (nowhere : Unlisted table path) (listed : .route route ∈ table)
      (there : IsAt route.path (otherPath path)) :
      Kept table method path (.redirect (otherPath path))
  | missing (nowhere : Unlisted table path)
      (nothing : path = "/" ∨ Unlisted table (otherPath path)) : Kept table method path .missing

theorem search_literal {table rest : List (Entry α)} (within : rest ⊆ table)
    (literal : ∀ entry ∈ rest, entry.IsLiteral) (method path : String) {held : Option (Route α)}
    (heldRefuses : ∀ route ∈ held, .route route ∈ table ∧ IsAt route.path path ∧
      route.serves method = false) {found : Dispatch α}
    (searched : search method path held rest = some found) : Kept table method path found := by
  induction rest generalizing held with
  | nil =>
      obtain ⟨route, isHeld, rfl⟩ := Option.map_eq_some_iff.mp searched
      obtain ⟨listed, here, refuses⟩ := heldRefuses route isHeld
      exact .refuse route listed here refuses
  | cons entry rest ih =>
      obtain ⟨listed, later⟩ := List.cons_subset.mp within
      rw [List.forall_mem_cons] at literal
      cases entry with
      | broken fault => cases literal.1
      | route route =>
          have own : Route.IsLiteral route := literal.1
          rw [search, own.params? path] at searched
          by_cases here : IsAt route.path path
          · simp only [if_pos here] at searched
            cases serves : route.serves method with
            | true =>
                simp only [serves, if_true, Option.some.injEq] at searched
                rw [← searched]
                exact .serve route listed here serves
            | false =>
                simp only [serves, Bool.false_eq_true, if_false] at searched
                refine ih later literal.2 ?_ searched
                rintro first ⟨⟩
                cases held with
                | none => exact ⟨listed, here, serves⟩
                | some before => exact heldRefuses before rfl
          · simp only [if_neg here] at searched
            exact ih later literal.2 heldRefuses searched

theorem unlisted_of_search {table : List (Entry α)}
    (literal : ∀ entry ∈ table, entry.IsLiteral) {method path : String} {held : Option (Route α)}
    (searched : search method path held table = none) : held = none ∧ Unlisted table path := by
  induction table generalizing held with
  | nil => exact ⟨Option.map_eq_none_iff.mp searched, nofun⟩
  | cons entry rest ih =>
      rw [List.forall_mem_cons] at literal
      cases entry with
      | broken fault => cases literal.1
      | route route =>
          have own : Route.IsLiteral route := literal.1
          rw [search, own.params? path] at searched
          rw [unlisted_cons_iff]
          by_cases here : IsAt route.path path
          · simp only [if_pos here] at searched
            split at searched
            · cases searched
            · cases (ih literal.2 searched).1
          · simp only [if_neg here] at searched
            obtain ⟨noneHeld, nowhere⟩ := ih literal.2 searched
            exact ⟨noneHeld, here, nowhere⟩

theorem redirectTo_literal {table : List (Entry α)}
    (literal : ∀ entry ∈ table, entry.IsLiteral) (other : String) :
    (∃ route, .route route ∈ table ∧ IsAt route.path other ∧
      redirectTo other table = .redirect other) ∨
    (Unlisted table other ∧ redirectTo other table = .missing) := by
  induction table with
  | nil => exact Or.inr ⟨nofun, rfl⟩
  | cons entry rest ih =>
      rw [List.forall_mem_cons] at literal
      cases entry with
      | broken fault => cases literal.1
      | route route =>
          have own : Route.IsLiteral route := literal.1
          rw [redirectTo, own.params? other, unlisted_cons_iff]
          by_cases here : IsAt route.path other
          · refine Or.inl ⟨route, List.mem_cons_self, here, ?_⟩
            simp only [if_pos here]
          · simp only [if_neg here]
            rcases ih literal.2 with ⟨found, listed, there, redirected⟩ | ⟨nowhere, missed⟩
            · exact Or.inl ⟨found, List.mem_cons_of_mem _ listed, there, redirected⟩
            · exact Or.inr ⟨⟨here, nowhere⟩, missed⟩

theorem dispatch_literal {table : List (Entry α)} (literal : ∀ entry ∈ table, entry.IsLiteral)
    (method path : String) : Kept table method path (dispatch table method path) := by
  unfold dispatch
  cases searched : search method path none table with
  | some found =>
      have noneHeld : ∀ route ∈ (none : Option (Route α)), .route route ∈ table ∧
          IsAt route.path path ∧ route.serves method = false := nofun
      exact search_literal (List.Subset.refl table) literal method path noneHeld searched
  | none =>
      have nowhere := (unlisted_of_search literal searched).2
      dsimp only
      by_cases root : path = "/"
      · rw [if_pos root]
        exact .missing nowhere (Or.inl root)
      · rw [if_neg root]
        rcases redirectTo_literal literal (otherPath path) with
          ⟨route, listed, there, redirected⟩ | ⟨nothing, missed⟩
        · rw [redirected]
          exact .redirect route nowhere listed there
        · rw [missed]
          exact .missing nowhere (Or.inr nothing)

/-! ### Slashes -/

/-- A path with its end changed: a slash more where it has none, else without all the slashes that
it ends with. -/
inductive SlashChange (path other : String) : Prop
  | added (bare : path.toList.getLast? ≠ some '/') (longer : other = path ++ "/")
  | removed (slashes : Nat) (any : slashes ≠ 0)
      (shorter : path.toList = other.toList ++ List.replicate slashes '/')
      (bare : other.toList.getLast? ≠ some '/')

theorem slashChange_iff (path other : String) : SlashChange path other ↔ other = otherPath path := by
  constructor
  · intro change
    cases change with
    | added bare longer =>
        have unslashed : endsWithSlash path = false := decide_eq_false bare
        rw [otherPath, unslashed, longer]
        rfl
    | removed slashes any shorter bare =>
        have slashed : endsWithSlash path = true := by
          rw [endsWithSlash, shorter, List.getLast?_append, List.getLast?_replicate, if_neg any]
          rfl
        have dropped : ∀ c ∈ List.replicate slashes '/', decide (c = '/') = true :=
          fun c member => decide_eq_true (List.eq_of_mem_replicate member)
        have stays : ∀ c ∈ other.toList.getLast?, decide (c = '/') = false := by
          intro c member
          refine decide_eq_false fun same => bare ?_
          rw [Option.mem_def.mp member, same]
        rw [otherPath, slashed, if_pos rfl, shorter, Text.trimEnd_append dropped stays,
          String.ofList_toList]
  · rintro rfl
    cases slashed : endsWithSlash path with
    | false =>
        refine .added (of_decide_eq_false slashed) ?_
        rw [otherPath, slashed]
        rfl
    | true =>
        have kept := Text.trimEnd_append_dropped (· = '/') path.toList
        have dropped : (path.toList.reverse.takeWhile (· = '/')).reverse =
            List.replicate (path.toList.reverse.takeWhile (· = '/')).length '/' := by
          rw [List.eq_replicate_iff]
          refine ⟨List.length_reverse, fun c member => ?_⟩
          have isSlash := List.mem_takeWhile_imp (List.mem_reverse.mp member)
          exact of_decide_eq_true isSlash
        have stays := Text.getLast?_trimEnd (· = '/') path.toList
        rw [dropped] at kept
        have shorter : (otherPath path).toList = Text.trimEnd (· = '/') path.toList := by
          rw [otherPath, slashed, if_pos rfl, String.toList_ofList]
        refine .removed _ ?_ (shorter ▸ kept.symm) ?_
        · intro none
          rw [none, List.replicate_zero, List.append_nil] at kept
          rw [kept] at stays
          exact absurd (stays '/' (of_decide_eq_true slashed)) (by decide)
        · rw [shorter]
          intro last
          exact absurd (stays '/' last) (by decide)

end SavingsSite.Routing
