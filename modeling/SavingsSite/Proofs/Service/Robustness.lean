import SavingsSite.Proofs.Service.Plan

set_option autoImplicit false

/-! What the shipped application makes of any request. Its table loses none, and every endpoint
answers, but for one case: the report on a refused toggle shows the input, and there is input that no
answer can show. -/

namespace SavingsSite.Service

open Routing
open Http (Request)

/-! ### Endpoints -/

def Endpoint.isSteady : Endpoint → Bool
  | .toggle | .documentation _ | .custom _ => false
  | _ => true

def Endpoint.isToggle : Endpoint → Bool
  | .toggle => true
  | _ => false

def Endpoint.isDocumentation : Endpoint → Bool
  | .documentation _ => true
  | _ => false

theorem shippedPlan_endpoints : ∀ plan ∈ shippedPlan, plan.2.2.2.isSteady = true ∨
    (plan.2.2.2.isToggle = true ∧ plan.2.1 = togglePath ∧ plan.2.2.1 = ["POST"]) ∨
    (plan.2.2.2.isDocumentation = true ∧ plan.2.1 ∈ documentationPaths) := by
  decide

theorem shippedPlan_methods : ∀ plan ∈ shippedPlan,
    plan.2.2.1 ∈ [["GET", "HEAD"], ["GET"], ["POST"]] := by
  decide

/-! ### Answers of endpoints -/

/-- A response with one of some statuses, and no crash. -/
def Answered (statuses : List Int) (answer : Except Crash Http.Response) : Prop :=
  ∃ response, answer = .ok response ∧ response.status ∈ statuses

theorem Answered.mono {statuses more : List Int} {answer : Except Crash Http.Response}
    (answered : Answered statuses answer) (within : statuses ⊆ more) : Answered more answer := by
  obtain ⟨response, responds, status⟩ := answered
  exact ⟨response, responds, within status⟩

theorem answered_json {value : Json} (sound : value.isSound = true) :
    Answered [200] (Outcome.answer (.json value)).respond :=
  ⟨_, respond_answer_of_sound sound, List.mem_singleton_self 200⟩

theorem shown_answered {openIndex : Option Int} (isOpen : IsOpen openIndex) :
    Answered [200] (shownOutcome openIndex).respond :=
  ⟨_, respond_shown isOpen, List.mem_singleton_self 200⟩

theorem itemNotFound_answered {index : Int} (writable : isWritable index = true) :
    Answered [404] (Outcome.failed (.site (.itemNotFound index itemCount))).respond := by
  have sendable := itemNotFound_isSendable writable itemCount (isWritable_of_lt (by decide))
  exact ⟨_, jsonResponse_of_sendable sendable 404 [], List.mem_singleton_self 404⟩

/-- An open index as a request may send it: none, or a natural number that can be written. -/
def IsGiven (openIndex : Option Int) : Prop :=
  ∀ index, openIndex = some index → 0 ≤ index ∧ isWritable index = true

theorem IsGiven.isOpen_or_past {openIndex : Option Int} (given : IsGiven openIndex) :
    IsOpen openIndex ∨
      ∃ index, openIndex = some index ∧ (itemCount : Int) ≤ index ∧ isWritable index = true := by
  cases openIndex with
  | none => exact Or.inl nofun
  | some index =>
      obtain ⟨natural, writable⟩ := given index rfl
      by_cases past : (itemCount : Int) ≤ index
      · exact Or.inr ⟨index, rfl, past, writable⟩
      · refine Or.inl ?_
        rintro _ ⟨⟩
        exact ⟨natural, Int.not_le.mp past⟩

theorem showAccordion_answered {openIndex : Option Int} (given : IsGiven openIndex) :
    Answered [200, 404] (showAccordion openIndex).outcome.respond := by
  rcases given.isOpen_or_past with isOpen | ⟨index, rfl, past, writable⟩
  · rw [showAccordion_open isOpen]
    exact (shown_answered isOpen).mono (by decide)
  · simp only [showAccordion, Option.bind_some, indexFault?_past past writable]
    exact (itemNotFound_answered writable).mono (by decide)

theorem toggleItem_answered {openIndex : Option Int} (given : IsGiven openIndex) {index : Int}
    (natural : 0 ≤ index) (writable : isWritable index = true) :
    Answered [200, 404] (toggleItem openIndex index).outcome.respond := by
  rcases given.isOpen_or_past with isOpen | ⟨current, rfl, past, currentWritable⟩
  · by_cases past : (itemCount : Int) ≤ index
    · rw [toggleItem_past isOpen past writable]
      exact (itemNotFound_answered writable).mono (by decide)
    · have inside : 0 ≤ index ∧ index < itemCount := ⟨natural, Int.not_le.mp past⟩
      rw [toggleItem_inside isOpen inside]
      exact (shown_answered (IsOpen.toggled inside)).mono (by decide)
  · simp only [toggleItem, Option.bind_some, indexFault?_past past currentWritable, Option.some_or]
    exact (itemNotFound_answered currentWritable).mono (by decide)

/-! ### Reports on refused input -/

theorem invalid_cases (part : String) {issues : List Schema.Issue}
    (plain : ∀ issue ∈ issues, issue.IsPlain) :
    ((∀ issue ∈ issues, (shown issue.input).isSendable = true) ∧
      Answered [422] (Outcome.failed (.invalid (issueErrors part issues))).respond) ∨
    ((∃ issue ∈ issues, (shown issue.input).isSendable = false) ∧
      ∃ crash, (Outcome.failed (.invalid (issueErrors part issues))).respond = .error crash) := by
  have reported := issueReport_isSendable_iff part plain
  rcases jsonResponse_cases 422 (report (issueErrors part issues)) [] with
    ⟨sendable, responds⟩ | ⟨unsendable, responds⟩
  · exact Or.inl ⟨reported.mp sendable, _, responds, List.mem_singleton_self 422⟩
  · refine Or.inr ⟨?_, responds⟩
    have lost := mt reported.mpr (Bool.eq_false_iff.mp unsendable)
    simp only [not_forall, Bool.not_eq_true] at lost
    obtain ⟨issue, member, lost⟩ := lost
    exact ⟨issue, member, lost⟩

/-! ### The accordion -/

theorem getAccordion_refused {request : Request} {given : String} {issues : List Schema.Issue}
    (sent : Http.queryValue? request.query "open_index" = some given)
    (refused : (Schema.Shape.nullable Content.position).read .request (Json.ofString given) =
      .error issues) : Answered [422] (getAccordion request).outcome.respond := by
  simp only [getAccordion, sent, refused]
  have read := Schema.nullablePosition_read_error refused
  have plain : ∀ issue ∈ issues.map (·.under (.field "open_index")), issue.IsPlain := by
    rw [List.forall_mem_map]
    intro issue member
    exact (read issue member).2.under "open_index"
  rcases invalid_cases "query" plain with ⟨_, answered⟩ | ⟨⟨issue, member, lost⟩, _⟩
  · exact answered
  · obtain ⟨inner, found, rfl⟩ := List.mem_map.mp member
    have shows : (shown (Json.ofString given)).isSendable = true := text_isSendable given
    rw [Schema.Issue.under, (read inner found).1, shows] at lost
    cases lost

theorem getAccordion_answered (request : Request) :
    Answered [200, 404, 422] (getAccordion request).outcome.respond := by
  have noneGiven : IsGiven none := nofun
  cases sent : Http.queryValue? request.query "open_index" with
  | none =>
      simp only [getAccordion, sent]
      exact (showAccordion_answered noneGiven).mono (by decide)
  | some given =>
      cases read : (Schema.Shape.nullable Content.position).read .request (Json.ofString given) with
      | error issues => exact (getAccordion_refused sent read).mono (by decide)
      | ok value =>
          simp only [getAccordion, sent, read]
          rcases Schema.nullablePosition_read_ok read trivial with rfl | ⟨n, rfl, natural, writable⟩
          · exact (showAccordion_answered noneGiven).mono (by decide)
          · have given : IsGiven (some n) := by
              rintro _ ⟨⟩
              exact ⟨natural, writable⟩
            exact (showAccordion_answered given).mono (by decide)

/-! ### The toggle -/

/-- A body that the answer to it cannot show: bytes that are no text, a text that is malformed at a
place with too many digits, or a value that is refused for a part with a number that has no text, or
with a lone half of a pair. -/
inductive Unshowable : Http.BodyValue → Prop
  | malformed (reason : Json.Body.Reason) (offset : Nat)
      (unwritable : isWritable offset = false) : Unshowable (.malformed reason offset)
  | undecodable (bytes : Text.Bytes) (fault : Text.Utf8Fault)
      (decodes : Text.decodeUtf8 bytes = .error fault) : Unshowable (.raw bytes)
  | refused (value : Json) (issues : List Schema.Issue)
      (read : Content.toggleRequestKind.shape.read .request value = .error issues)
      (lost : ∃ issue ∈ issues, (shown issue.input).isSendable = false) :
      Unshowable (.json value)

def IsToggleRequest (body : Http.BodyValue) : Prop :=
  ∃ value record, body = .json value ∧
    Content.toggleRequestKind.shape.read .request value = .ok record

theorem toggleOf_read {value record : Json} (short : Json.IntegersWithin Json.digitLimit value)
    (read : Content.toggleRequestKind.shape.read .request value = .ok record) :
    Answered [200, 404] (toggleOf value).outcome.respond := by
  simp only [toggleOf, read]
  obtain ⟨openIndex, n, rfl, isOpen, natural, writable⟩ := Schema.toggleRequest_read_ok short read
  rcases isOpen with rfl | ⟨m, rfl, given⟩
  · have noneGiven : IsGiven none := by
      intro m given
      cases given
    exact toggleItem_answered noneGiven natural writable
  · have isGiven : IsGiven (some m) := by
      rintro _ ⟨⟩
      exact given
    exact toggleItem_answered isGiven natural writable

theorem toggleOf_text (text : String) :
    Answered [422] (toggleOf (Json.ofString text)).outcome.respond := by
  have responds : (toggleOf (Json.ofString text)).outcome.respond = jsonResponse 422 (report
      (issueErrors "body" [⟨.notRecord .request "ToggleRequest", [], Json.ofString text⟩])) [] := by
    simp only [toggleOf, Content.toggleRequestKind, Schema.RecordKind.shape, Json.ofString,
      Schema.Shape.read]
    rfl
  exact ⟨_, responds.trans (jsonResponse_of_sendable (Json.isSendable_of_sound rfl) 422 []),
    List.mem_singleton_self 422⟩

theorem bodyValue_within {request : Request} {value : Json} (sent : request.bodyValue = .json value) :
    Json.IntegersWithin Json.digitLimit value := by
  unfold Request.bodyValue at sent
  split at sent
  · cases sent
  · split at sent
    · split at sent
      · cases sent
      · split at sent
        · cases sent
          exact Json.Body.read_within ‹_›
        · cases sent
        · cases sent
    · cases sent

theorem malformed_cases (reason : Json.Body.Reason) (offset : Nat) :
    (isWritable offset = true ∧
      Answered [422] (invalid [Detail.ofMalformed reason offset]).outcome.respond) ∨
    (isWritable offset = false ∧
      ∃ crash, (invalid [Detail.ofMalformed reason offset]).outcome.respond = .error crash) := by
  have reported := report_isSendable_iff [(Detail.ofMalformed reason offset).toJson]
  rw [List.forall_mem_singleton, malformed_isSendable_iff] at reported
  rcases jsonResponse_cases 422 (report [(Detail.ofMalformed reason offset).toJson]) [] with
    ⟨sendable, answered⟩ | ⟨unsendable, failed⟩
  · exact Or.inl ⟨reported.mp sendable, _, answered, List.mem_singleton_self 422⟩
  · refine Or.inr ⟨?_, failed⟩
    cases writable : isWritable (offset : Int) with
    | true =>
        rw [reported.mpr writable] at unsendable
        cases unsendable
    | false => rfl

theorem toggleOf_cases {value : Json} (short : Json.IntegersWithin Json.digitLimit value) :
    (Unshowable (.json value) ∧ ∃ crash, (toggleOf value).outcome.respond = .error crash) ∨
    (¬ Unshowable (.json value) ∧ Answered [200, 404, 422] (toggleOf value).outcome.respond ∧
      (¬ IsToggleRequest (.json value) → Answered [422] (toggleOf value).outcome.respond)) := by
  cases read : Content.toggleRequestKind.shape.read .request value with
  | ok record =>
      have answered := toggleOf_read short read
      refine Or.inr ⟨?_, answered.mono (by decide), fun unread => ?_⟩
      · intro unshowable
        cases unshowable with
        | refused _ _ fails _ => cases read.symm.trans fails
      · exact absurd ⟨value, record, rfl, read⟩ unread
  | error issues =>
      simp only [toggleOf, read]
      rcases invalid_cases "body" (Schema.toggleRequest_read_error read) with
        ⟨showable, answered⟩ | ⟨lost, crash⟩
      · refine Or.inr ⟨?_, answered.mono (by decide), fun _ => answered⟩
        intro unshowable
        cases unshowable with
        | refused _ _ fails lost =>
            cases read.symm.trans fails
            obtain ⟨issue, member, unsendable⟩ := lost
            cases unsendable.symm.trans (showable issue member)
      · exact Or.inl ⟨.refused value issues read lost, crash⟩

/-- A toggle is answered, and with a refusal unless its body is a toggle request, or the body cannot
be shown and the answer is a crash. -/
theorem postToggle_cases (request : Request) :
    (Unshowable request.bodyValue ∧ ∃ crash, (postToggle request).outcome.respond = .error crash) ∨
    (¬ Unshowable request.bodyValue ∧
      Answered [200, 400, 404, 422] (postToggle request).outcome.respond ∧
      (¬ IsToggleRequest request.bodyValue →
        Answered [400, 422] (postToggle request).outcome.respond)) := by
  unfold postToggle
  cases sent : request.bodyValue with
  | absent =>
      have answered : Answered [422] (invalid [Detail.bodyMissing]).outcome.respond :=
        ⟨_, jsonResponse_of_sendable (Json.isSendable_of_sound rfl) 422 [],
          List.mem_singleton_self 422⟩
      exact Or.inr ⟨nofun, answered.mono (by decide), fun _ => answered.mono (by decide)⟩
  | malformed reason offset =>
      rcases malformed_cases reason offset with ⟨writable, answered⟩ | ⟨unwritable, failed⟩
      · refine Or.inr ⟨?_, answered.mono (by decide), fun _ => answered.mono (by decide)⟩
        rintro ⟨_, _, unwritable⟩
        cases writable.symm.trans unwritable
      · exact Or.inl ⟨.malformed reason offset unwritable, failed⟩
  | unreadable =>
      have answered : Answered [400] (refusal 400
          (Json.ofString "There was an error parsing the body") []) :=
        ⟨_, rfl, List.mem_singleton_self 400⟩
      exact Or.inr ⟨nofun, answered.mono (by decide), fun _ => answered.mono (by decide)⟩
  | raw bytes =>
      cases decodes : Text.decodeUtf8 bytes with
      | error fault =>
          simp only [decodes]
          exact Or.inl ⟨.undecodable bytes fault decodes, _, rfl⟩
      | ok chars =>
          have answered := toggleOf_text (String.ofList chars)
          simp only [decodes]
          refine Or.inr ⟨?_, answered.mono (by decide), fun _ => answered.mono (by decide)⟩
          intro unshowable
          cases unshowable with
          | undecodable _ _ fails => cases decodes.symm.trans fails
  | json value =>
      rcases toggleOf_cases (bodyValue_within sent) with failed | ⟨shows, answered, refused⟩
      · exact Or.inl failed
      · exact Or.inr ⟨shows, answered.mono (by decide), fun unread =>
          (refused unread).mono (by decide)⟩

/-! ### All endpoints -/

theorem handle_steady (page : String → Request → Outcome) (context : Context) (kind : RouteKind)
    (request : Request) (params : List (String × ParamValue)) {endpoint : Endpoint}
    (steady : endpoint.isSteady = true) :
    Answered [200, 404, 422]
      (endpoint.handle page context kind request params).outcome.respond := by
  cases endpoint with
  | root => exact (answered_json rfl).mono (by decide)
  | health => exact (answered_json rfl).mono (by decide)
  | readiness => exact (answered_json rfl).mono (by decide)
  | liveness => exact (answered_json rfl).mono (by decide)
  | chainStatus =>
      refine (answered_json ?_).mono (by decide)
      cases context.settings.contractId <;> rfl
  | faqList => exact (answered_json rfl).mono (by decide)
  | accordion => exact getAccordion_answered request
  | hero => exact (answered_json rfl).mono (by decide)
  | toggle => cases steady
  | documentation path => cases steady
  | custom handle => cases steady

theorem refusal_shipped {methods : List String}
    (shipped : methods ∈ [["GET", "HEAD"], ["GET"], ["POST"]]) :
    ∃ response, Site.refusal methods = .ok response ∧ response.status = 405 := by
  simp only [List.mem_cons, List.not_mem_nil, or_false] at shipped
  rcases shipped with rfl | rfl | rfl <;> exact ⟨_, rfl, rfl⟩

def IsToggle (request : Request) : Prop :=
  request.method = "POST" ∧ IsAt togglePath request.path

def IsView (request : Request) : Prop :=
  request.method = "GET" ∧ IsAt accordionPath request.path

variable {docs : Documentation}

theorem dispatch_of_isToggle (settings : Settings) {request : Request}
    (toggle : IsToggle request) : ∃ route params,
      dispatch (shippedSite docs settings).table request.method request.path = .serve route params ∧
        route.endpoint = .toggle := by
  obtain ⟨method, here⟩ := toggle
  have member : (.interface, togglePath, ["POST"], .toggle) ∈ shippedPlan := by simp [shippedPlan]
  rw [method]
  exact ⟨_, _, dispatch_at docs settings (.refl _) member "POST" here, rfl⟩

theorem dispatch_of_isView (settings : Settings) {request : Request} (view : IsView request) :
    ∃ route params,
      dispatch (shippedSite docs settings).table request.method request.path = .serve route params ∧
        route.endpoint = .accordion := by
  obtain ⟨method, here⟩ := view
  have member : (.interface, accordionPath, ["GET"], .accordion) ∈ shippedPlan := by
    simp [shippedPlan]
  rw [method]
  exact ⟨_, _, dispatch_at docs settings (.refl _) member "GET" here, rfl⟩

/-- A request whose input is malformed or of the wrong type. -/
inductive IllFormed (request : Request) : Prop
  | query (view : IsView request) (given : String) (issues : List Schema.Issue)
      (sent : Http.queryValue? request.query "open_index" = some given)
      (refused : (Schema.Shape.nullable Content.position).read .request (Json.ofString given) =
        .error issues)
  | body (toggle : IsToggle request) (unread : ¬ IsToggleRequest request.bodyValue)

def Breaks (request : Request) : Prop :=
  IsToggle request ∧ Unshowable request.bodyValue

/-- Whether the pages of documentation have an answer to every request. -/
def Documentation.Answers (docs : Documentation) : Prop :=
  ∀ settings table path request, Answered [200] (docs.page settings table path request).respond

/-- A request that the documentation answers, if it comes to it at all. -/
def Sheltered (docs : Documentation) (request : Request) : Prop :=
  docs.Answers ∨ ∀ page ∈ documentationPaths, ¬ IsAt page request.path

theorem route_other (settings : Settings) (now : String) {request : Request}
    (other : ¬ IsToggle request) (sheltered : Sheltered docs request) :
    Answered [200, 307, 404, 405, 422] ((shippedSite docs settings).route now request).1 := by
  have kept : Routing.Kept (shippedSite docs settings).table request.method request.path
      (dispatch (shippedSite docs settings).table request.method request.path) :=
    dispatch_reordered docs settings (.refl defaultModules) request.method request.path
  unfold Site.route
  generalize dispatch (shippedSite docs settings).table request.method request.path = outcome at kept
  cases kept with
  | serve route listed here serves =>
      obtain ⟨plan, member, rfl⟩ := route_mem_reordered docs settings (.refl defaultModules) listed
      rcases shippedPlan_endpoints plan member with
        steady | ⟨_, path, methods⟩ | ⟨isPage, documented⟩
      · exact (handle_steady _ ⟨settings, now⟩ _ request [] steady).mono (by decide)
      · have method : (planned plan).methods = ["POST"] := methods
        rw [Route.serves, method, List.isEmpty_cons, Bool.false_or, List.contains_iff_mem,
          List.mem_singleton] at serves
        rw [planned, path] at here
        exact absurd ⟨serves, here⟩ other
      · rcases sheltered with answers | away
        · obtain ⟨path, endpoint⟩ : ∃ path, (planned plan).endpoint = .documentation path := by
            revert isPage
            rw [planned]
            cases plan.2.2.2 <;> simp [Endpoint.isDocumentation]
          simp only [endpoint, Endpoint.handle]
          exact (answers _ _ path request).mono (by decide)
        · exact absurd here (away _ documented)
  | refuse route listed =>
      obtain ⟨plan, member, rfl⟩ := route_mem_reordered docs settings (.refl defaultModules) listed
      obtain ⟨response, refused, status⟩ := refusal_shipped (shippedPlan_methods plan member)
      refine ⟨response, refused, ?_⟩
      rw [status]
      decide
  | redirect route =>
      have status : (307 : Int) ∈ ([200, 307, 404, 405, 422] : List Int) := by decide
      exact ⟨_, rfl, status⟩
  | missing => exact ⟨_, rfl, by decide⟩

theorem route_toggle (settings : Settings) (now : String) {request : Request}
    (toggle : IsToggle request) :
    (Unshowable request.bodyValue ∧
      ∃ crash, ((shippedSite docs settings).route now request).1 = .error crash) ∨
    (¬ Unshowable request.bodyValue ∧
      Answered [200, 400, 404, 422] ((shippedSite docs settings).route now request).1 ∧
      (¬ IsToggleRequest request.bodyValue →
        Answered [400, 422] ((shippedSite docs settings).route now request).1)) := by
  obtain ⟨route, params, served, endpoint⟩ := dispatch_of_isToggle settings toggle
  have routed : ((shippedSite docs settings).route now request).1 =
      (postToggle request).outcome.respond := by
    rw [route_of_serve now request served, endpoint, Endpoint.handle]
  rw [routed]
  exact postToggle_cases request

theorem route_view_refused (settings : Settings) (now : String) {request : Request}
    (view : IsView request) {given : String} {issues : List Schema.Issue}
    (sent : Http.queryValue? request.query "open_index" = some given)
    (refused : (Schema.Shape.nullable Content.position).read .request (Json.ofString given) =
      .error issues) : Answered [422] ((shippedSite docs settings).route now request).1 := by
  obtain ⟨route, params, served, endpoint⟩ := dispatch_of_isView settings view
  rw [route_of_serve now request served, endpoint, Endpoint.handle]
  exact getAccordion_refused sent refused

theorem route_cases (settings : Settings) (now : String) {request : Request}
    (sheltered : Sheltered docs request) :
    (Breaks request ∧ ∃ crash, ((shippedSite docs settings).route now request).1 = .error crash) ∨
    (¬ Breaks request ∧
      Answered [200, 307, 400, 404, 405, 422] ((shippedSite docs settings).route now request).1 ∧
      (IllFormed request →
        Answered [400, 422] ((shippedSite docs settings).route now request).1)) := by
  by_cases toggle : IsToggle request
  · rcases route_toggle settings now toggle with ⟨unshowable, crash⟩ | ⟨showable, answers, refused⟩
    · exact Or.inl ⟨⟨toggle, unshowable⟩, crash⟩
    · refine Or.inr ⟨fun breaks => showable breaks.2, answers.mono (by decide), fun illFormed => ?_⟩
      cases illFormed with
      | query view => exact absurd (toggle.1.symm.trans view.1) (by decide)
      | body _ unread => exact refused unread
  · refine Or.inr ⟨fun breaks => toggle breaks.1,
      (route_other settings now toggle sheltered).mono (by decide), fun illFormed => ?_⟩
    cases illFormed with
    | query view given issues sent refused =>
        exact (route_view_refused settings now view sent refused).mono (by decide)
    | body here _ => exact absurd here toggle

/-! ### Replies -/

theorem preflight_status (policy : Http.Cors.Policy) (request : Request) (origin : String) :
    (Http.Cors.preflight policy request origin).status ∈ ([200, 400] : List Int) := by
  unfold Http.Cors.preflight
  dsimp only
  split
  · exact List.mem_cons_self
  · exact List.mem_cons_of_mem 200 List.mem_cons_self

/-- An answer of the application reaches the client without a crash, unless the request asks for
leave before another. -/
theorem respond_of_answers {site : Site} {now : String} {request : Request} {statuses : List Int}
    (answers : Answered statuses (site.route now request).1) :
    (site.respond now request).crash = none ∧
      ((site.respond now request).response.status ∈ statuses ∨
        (Http.Cors.isPreflight request = true ∧
          (site.respond now request).response.status ∈ ([200, 400] : List Int))) := by
  obtain ⟨response, routed, status⟩ := answers
  have replied := site.replied now request
  generalize (site.respond now request).response = received at replied ⊢
  generalize (site.respond now request).crash = crash at replied ⊢
  cases replied with
  | preflight origin _ asks => exact ⟨rfl, Or.inr ⟨asks, preflight_status _ request origin⟩⟩
  | answered _ own =>
      cases routed.symm.trans own
      rw [(granted_status_content site request response).1]
      exact ⟨rfl, Or.inl status⟩
  | crashed _ failed => cases routed.symm.trans failed

theorem respond_of_crash {site : Site} {now : String} {request : Request} {crash : Crash}
    (method : request.method ≠ "OPTIONS") (failed : (site.route now request).1 = .error crash) :
    (site.respond now request).crash = some crash ∧
      (site.respond now request).response.status = 500 := by
  have replied := site.replied now request
  generalize (site.respond now request).response = received at replied ⊢
  generalize (site.respond now request).crash = found at replied ⊢
  cases replied with
  | preflight _ _ asks => cases asks.symm.trans (isPreflight_of_method method)
  | answered _ routed => cases failed.symm.trans routed
  | crashed _ own =>
      cases failed.symm.trans own
      exact ⟨rfl, rfl⟩

/-! ### All requests -/

/-- The shipped application breaks on a toggle whose body the answer cannot show, and on no other
request that the documentation answers or does not see. Any other malformed input is refused. -/
theorem shipped_breaks_iff (docs : Documentation) (settings : Settings) :
    ∃ site, (create docs settings defaultModules).site = .ok site ∧ ∀ now request,
      Sheltered docs request →
      let reply := site.respond now request
      let status := reply.response.status
      (status = 500 ↔ Breaks request) ∧ (reply.crash ≠ none ↔ Breaks request) ∧
      (¬ Breaks request → status ∈ ([200, 307, 400, 404, 405, 422] : List Int)) ∧
      (IllFormed request → ¬ Breaks request → status ∈ ([400, 422] : List Int)) := by
  refine ⟨shippedSite docs settings, create_shipped docs settings, ?_⟩
  intro now request sheltered reply status
  rcases route_cases settings now sheltered with
    ⟨breaks, crash, failed⟩ | ⟨sound, answers, refused⟩
  · have post : request.method ≠ "OPTIONS" := by
      rw [breaks.1.1]
      decide
    obtain ⟨crashed, isError⟩ := respond_of_crash post failed
    have hasCrashed : reply.crash ≠ none := by
      rw [crashed]
      exact Option.some_ne_none crash
    exact ⟨iff_of_true isError breaks, iff_of_true hasCrashed breaks,
      fun sound => absurd breaks sound, fun _ sound => absurd breaks sound⟩
  · obtain ⟨uncrashed, statusOf⟩ := respond_of_answers answers
    have listed : status ∈ ([200, 307, 400, 404, 405, 422] : List Int) := by
      rcases statusOf with own | ⟨_, preflight⟩
      · exact own
      · have within : ([200, 400] : List Int) ⊆ [200, 307, 400, 404, 405, 422] := by decide
        exact within preflight
    have noError : status ≠ 500 := by
      intro isError
      rw [isError] at listed
      exact absurd listed (by decide)
    refine ⟨iff_of_false noError sound, iff_of_false (fun crashed => crashed uncrashed) sound,
      fun _ => listed, fun illFormed _ => ?_⟩
    rcases (respond_of_answers (refused illFormed)).2 with own | ⟨preflight, _⟩
    · exact own
    · have method : request.method ≠ "OPTIONS" := by
        cases illFormed with
        | query view =>
            rw [view.1]
            decide
        | body here =>
            rw [here.1]
            decide
      cases preflight.symm.trans (isPreflight_of_method method)

def undefinedToggle : Request where
  method := "POST"
  path := togglePath
  query := ""
  headers := [("content-type", "application/json")]
  body := Text.bytesOf "\x7b\"index\":NaN\x7d".toList

theorem undefinedToggle_illFormed : IllFormed undefinedToggle := by
  refine .body ⟨rfl, Or.inl rfl⟩ ?_
  rintro ⟨value, record, sent, read⟩
  have body : undefinedToggle.bodyValue = .json (.record [(.sound "index", .real .undefined)]) := rfl
  have refused : Content.toggleRequestKind.shape.read .request
      (.record [(.sound "index", .real .undefined)]) =
        .error [⟨.notFinite, [.field "index"], .real .undefined⟩] := rfl
  cases body.symm.trans sent
  cases refused.symm.trans read

theorem shipped_breaks_on_undefined :
    ∃ site, (create .blank { rpcUrl := "https://rpc" } defaultModules).site = .ok site ∧
      IllFormed undefinedToggle ∧
      (site.respond "" undefinedToggle).response.status = 500 ∧
      (site.respond "" undefinedToggle).crash = some (.unwritable .notFinite) :=
  ⟨_, create_shipped .blank _, undefinedToggle_illFormed, rfl, rfl⟩

end SavingsSite.Service
