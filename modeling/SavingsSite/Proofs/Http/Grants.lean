import SavingsSite.Http.Cors

set_option autoImplicit false

/-! The grants of an answer to other origins. Under a policy that lists origins the only origin that
is ever named is that of the request, and only when it is one of the list. -/

namespace SavingsSite.Http

theorem valuesOf_append (name : String) (first rest : List (String × String)) :
    valuesOf name (first ++ rest) = valuesOf name first ++ valuesOf name rest := by
  rw [valuesOf, List.filter_append, List.map_append]
  rfl

theorem valuesOf_singleton (name value : String) : valuesOf name [(name, value)] = [value] := by
  simp only [valuesOf, List.filter_cons, decide_true, if_true, List.filter_nil, List.map_cons,
    List.map_nil]

theorem valuesOf_eq_nil {name : String} {headers : List (String × String)}
    (others : ∀ header ∈ headers, header.1 ≠ name) : valuesOf name headers = [] := by
  rw [valuesOf, List.map_eq_nil_iff, List.filter_eq_nil_iff]
  intro header member same
  exact others header member (of_decide_eq_true same)

theorem valuesOf_filter {name : String} {keep : String × String → Bool}
    (kept : ∀ header, header.1 = name → keep header = true) (headers : List (String × String)) :
    valuesOf name (headers.filter keep) = valuesOf name headers := by
  rw [valuesOf, List.filter_filter, valuesOf]
  congr 2
  funext header
  by_cases same : header.1 = name
  · rw [kept header same, Bool.and_true]
  · rw [decide_eq_false same, Bool.false_and]

theorem valuesOf_cons (name : String) (header : String × String)
    (rest : List (String × String)) :
    valuesOf name (header :: rest) =
      if header.1 = name then header.2 :: valuesOf name rest else valuesOf name rest := by
  simp only [valuesOf, List.filter_cons, decide_eq_true_eq]
  split <;> rfl

theorem valuesOf_setValue (name value : String) (headers : List (String × String)) :
    valuesOf name (setValue name value headers) = [value] := by
  induction headers with
  | nil => exact valuesOf_singleton name value
  | cons header rest ih =>
      by_cases same : header.1 = name
      · have cleared : valuesOf name (rest.filter (·.1 ≠ name)) = [] := by
          apply valuesOf_eq_nil
          intro other member
          exact of_decide_eq_true (List.mem_filter.mp member).2
        rw [setValue, if_pos same, valuesOf_cons, if_pos rfl, cleared]
      · rw [setValue, if_neg same, valuesOf_cons, if_neg same, ih]

theorem valuesOf_setValue_of_ne {name other : String} (differs : other ≠ name) (value : String)
    (headers : List (String × String)) :
    valuesOf name (setValue other value headers) = valuesOf name headers := by
  induction headers with
  | nil => exact valuesOf_eq_nil (List.forall_mem_singleton.mpr differs)
  | cons header rest ih =>
      by_cases same : header.1 = other
      · have foreign : header.1 ≠ name := same ▸ differs
        have kept : valuesOf name (rest.filter (·.1 ≠ other)) = valuesOf name rest := by
          apply valuesOf_filter
          intro kept isName
          exact decide_eq_true (isName ▸ differs.symm)
        rw [setValue, if_pos same, valuesOf_cons, if_neg differs, valuesOf_cons, if_neg foreign, kept]
      · rw [setValue, if_neg same, valuesOf_cons, valuesOf_cons, ih]

theorem valuesOf_setHeader (name value : String) (response : Response) :
    valuesOf name (response.setHeader name value).headers = [value] :=
  valuesOf_setValue name value response.headers

theorem valuesOf_setHeader_of_ne {name other : String} (differs : other ≠ name) (value : String)
    (response : Response) :
    valuesOf name (response.setHeader other value).headers = valuesOf name response.headers :=
  valuesOf_setValue_of_ne differs value response.headers

theorem valuesOf_allHeaders {name : String} (differs : "content-type" ≠ name)
    (response : Response) : valuesOf name response.allHeaders = valuesOf name response.headers := by
  unfold Response.allHeaders
  split
  · rfl
  · cases response.content.mediaType? with
    | none => rfl
    | some media =>
        rw [Option.map_some, Option.toList_some, List.singleton_append, valuesOf_cons,
          if_neg differs]

namespace Cors

/-! ### The origins that an answer names -/

theorem valuesOf_nameOrigin (origin : String) (response : Response) :
    valuesOf originHeader (nameOrigin origin response).headers = [origin] := by
  rw [nameOrigin, valuesOf_setHeader_of_ne (by decide), valuesOf_setHeader]

theorem vary_nameOrigin (origin : String) (response : Response) :
    valuesOf "vary" (nameOrigin origin response).headers =
      [", ".intercalate ((valuesOf "vary" response.headers).head?.toList ++ ["Origin"])] := by
  rw [nameOrigin, valuesOf_setHeader]

/-- Under a policy that lists origins, an answer comes to name the origin of the request when the
policy allows it, and else names what it named before. -/
theorem valuesOf_grant (origins : List String) (request : Request) (origin : String)
    (response : Response) :
    valuesOf originHeader (grant (.listed origins) request origin response).headers =
      if origin ∈ origins then [origin] else valuesOf originHeader response.headers := by
  by_cases allowed : origin ∈ origins
  · have allows : Policy.allows (.listed origins) origin = true :=
      List.contains_iff_mem.mpr allowed
    simp only [grant, allows, if_true, valuesOf_nameOrigin, if_pos allowed]
  · have refuses : Policy.allows (.listed origins) origin = false :=
      Bool.eq_false_iff.mpr (mt List.contains_iff_mem.mp allowed)
    simp only [grant, refuses, Bool.false_eq_true, if_false, if_neg allowed]
    exact valuesOf_setHeader_of_ne (by decide) "true" response

/-- The headers of an answer to a preflight request, but for those that repeat what it asks for. -/
theorem valuesOf_preflight_of_ne {name : String} (differs : "access-control-allow-headers" ≠ name)
    (policy : Policy) (request : Request) (origin : String) :
    valuesOf name (preflight policy request origin).headers =
      valuesOf name [
        ("vary", "Origin"),
        ("access-control-allow-methods", ", ".intercalate methods),
        ("access-control-max-age", toString maxAge),
        (credentialsHeader, "true")] ++
      valuesOf name (if policy.allows origin then [(originHeader, origin)] else []) := by
  unfold preflight
  dsimp only
  rw [apply_ite Response.headers, ite_self, valuesOf_append, valuesOf_append]
  cases request.header? "access-control-request-headers" with
  | none => exact List.append_nil _
  | some names =>
      dsimp only
      rw [valuesOf_eq_nil (List.forall_mem_singleton.mpr differs), List.append_nil]

theorem valuesOf_preflight (policy : Policy) (request : Request) (origin : String) :
    valuesOf originHeader (preflight policy request origin).headers =
      if policy.allows origin then [origin] else [] := by
  rw [valuesOf_preflight_of_ne (by decide), valuesOf_eq_nil (by decide), List.nil_append]
  split
  · exact valuesOf_singleton originHeader origin
  · rfl

/-! ### Answers that can be read -/

/-- Whether a page of an origin may read an answer: it is for all, or it names the origin, and says
that it depends on it, perhaps among other things. -/
def Readable (origin : String) (response : Response) : Prop :=
  valuesOf originHeader response.allHeaders = ["*"] ∨
    (valuesOf originHeader response.allHeaders = [origin] ∧
      ∃ others, valuesOf "vary" response.allHeaders = [", ".intercalate (others ++ ["Origin"])])

theorem readable_preflight {policy : Policy} {origin : String}
    (allows : policy.allows origin = true) (request : Request) :
    Readable origin (preflight policy request origin) := by
  have named : valuesOf originHeader (preflight policy request origin).headers = [origin] := by
    rw [valuesOf_preflight, if_pos allows]
  have varies : valuesOf "vary" (preflight policy request origin).headers = ["Origin"] := by
    rw [valuesOf_preflight_of_ne (by decide), if_pos allows]
    rfl
  refine Or.inr ⟨?_, [], ?_⟩
  · rw [valuesOf_allHeaders (by decide), named]
  · rw [valuesOf_allHeaders (by decide), varies]
    rfl

theorem readable_nameOrigin (origin : String) (response : Response) :
    Readable origin (nameOrigin origin response) := by
  refine Or.inr ⟨?_, (valuesOf "vary" response.headers).head?.toList, ?_⟩
  · rw [valuesOf_allHeaders (by decide), valuesOf_nameOrigin]
  · rw [valuesOf_allHeaders (by decide), vary_nameOrigin]

/-- Whatever an answer says before, an origin that the policy allows can read it afterwards. -/
theorem readable_grant {policy : Policy} {origin : String} (allows : policy.allows origin = true)
    (request : Request) (response : Response) :
    Readable origin (grant policy request origin response) := by
  cases policy with
  | all =>
      simp only [grant]
      cases (request.header? "cookie").isSome with
      | true => exact readable_nameOrigin origin _
      | false =>
          refine Or.inl ?_
          rw [if_neg Bool.false_ne_true, valuesOf_allHeaders (by decide),
            valuesOf_setHeader_of_ne (by decide), valuesOf_setHeader]
  | listed origins =>
      simp only [grant, allows, if_true]
      exact readable_nameOrigin origin _

end Cors

end SavingsSite.Http
