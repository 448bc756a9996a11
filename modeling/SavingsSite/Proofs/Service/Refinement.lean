import SavingsSite.Proofs.Service.Client

set_option autoImplicit false

/-! The stateless site refines the accordion that keeps its state: whatever a client clicks on, each
answer is what a mounted accordion does under the same clicks. -/

namespace SavingsSite.Service

open Routing
open Content (faqItems)

/-! ### What the endpoints make of the client's requests -/

theorem nullablePosition_read {openIndex : Option Int} (isOpen : IsOpen openIndex) :
    (Schema.Shape.nullable Content.position).read .request (Json.ofOption Json.whole openIndex) =
      .ok (Json.ofOption Json.whole openIndex) := by
  cases openIndex with
  | none => simp only [Json.ofOption, Schema.Shape.read]
  | some current =>
      have natural : ¬ current < 0 := Int.not_lt.mpr (isOpen current rfl).1
      simp only [Json.ofOption, Schema.Shape.read]
      rw [Schema.position_read_whole, if_neg natural]

def toggleFields (openIndex : Option Int) (index : Int) : Json.Fields :=
  [(.sound "open_index", Json.ofOption Json.whole openIndex), (.sound "index", .whole index)]

theorem toggleRecord_eq (openIndex : Option Int) (index : Int) :
    toggleRecord openIndex index = .record (toggleFields openIndex index) := rfl

theorem openIndex_given (openIndex : Option Int) (index : Int) :
    Json.Fields.get? "open_index" (toggleFields openIndex index) =
      some (Json.ofOption Json.whole openIndex) := rfl

theorem index_given (openIndex : Option Int) (index : Int) :
    Json.Fields.get? "index" (toggleFields openIndex index) = some (.whole index) := rfl

theorem integerField?_open (openIndex : Option Int) (index : Int) :
    integerField? (toggleRecord openIndex index) "open_index" = openIndex := by
  rw [integerField?, toggleRecord_eq, Json.field?, openIndex_given]
  cases openIndex <;> rfl

theorem toggleOf_natural {openIndex : Option Int} (isOpen : IsOpen openIndex) {index : Int}
    (natural : 0 ≤ index) :
    toggleOf (toggleRecord openIndex index) = toggleItem openIndex index := by
  have indexRead : Content.position.read .request (.whole index) = .ok (.whole index) := by
    rw [Schema.position_read_whole, if_neg (Int.not_lt.mpr natural)]
  have read : Content.toggleRequestKind.shape.read .request (toggleRecord openIndex index) =
      .ok (toggleRecord openIndex index) := by
    rw [toggleRecord_eq, Content.toggleRequestKind, Schema.RecordKind.shape, Schema.Shape.read,
      Content.optional, Content.required,
      Schema.read_field_ok (openIndex_given openIndex index) (nullablePosition_read isOpen),
      Schema.read_field_ok (index_given openIndex index) indexRead, Schema.read_done]
    rfl
  simp only [toggleOf, read, integerField?_open]
  rfl

def negativeIssue (index : Int) : Schema.Issue := ⟨.below 0, [.field "index"], .whole index⟩

theorem toggleOf_negative {openIndex : Option Int} (isOpen : IsOpen openIndex) {index : Int}
    (negative : index < 0) :
    toggleOf (toggleRecord openIndex index) =
      raise (.invalid (issueErrors "body" [negativeIssue index])) := by
  have indexRead : Content.position.read .request (.whole index) =
      .error [⟨.below 0, [], .whole index⟩] := by
    rw [Schema.position_read_whole, if_pos negative]
    rfl
  have read : Content.toggleRequestKind.shape.read .request (toggleRecord openIndex index) =
      .error [⟨.below 0, [.field "index"], .whole index⟩] := by
    rw [toggleRecord_eq, Content.toggleRequestKind, Schema.RecordKind.shape, Schema.Shape.read,
      Content.optional, Content.required,
      Schema.read_field_ok (openIndex_given openIndex index) (nullablePosition_read isOpen),
      Schema.read_field_error (index_given openIndex index) indexRead (Schema.read_done .request _)]
    rfl
  simp only [toggleOf, read]
  rfl

/-! ### Responses -/

def shippedSite (docs : Documentation) (settings : Settings) : Site :=
  application docs settings defaultModules

theorem create_shipped (docs : Documentation) (settings : Settings) :
    (create docs settings defaultModules).site = .ok (shippedSite docs settings) := by
  have exists_site : ∃ site, (create docs settings defaultModules).site = .ok site := ⟨_, rfl⟩
  obtain ⟨site, created⟩ := exists_site
  obtain ⟨accepted, _⟩ := (create_site_eq_ok_iff settings defaultModules site).mp created
  exact (create_site_eq_ok_iff settings defaultModules _).mpr ⟨accepted, rfl⟩

theorem dispatch_toggle (docs : Documentation) (settings : Settings) :
    ∃ route params,
      dispatch (shippedSite docs settings).table "POST" togglePath = .serve route params ∧
        route.endpoint = .toggle :=
  ⟨_, _, rfl, rfl⟩

theorem dispatch_accordion (docs : Documentation) (settings : Settings) :
    ∃ route params, dispatch (shippedSite docs settings).table "GET" accordionPath =
        .serve route params ∧ route.endpoint = .accordion :=
  ⟨_, _, rfl, rfl⟩

variable {docs : Documentation} {settings : Settings} {openIndex : Option Int}

def clickResponse (docs : Documentation) (settings : Settings) (click : Click)
    (openIndex : Option Int) : Http.Response :=
  ((shippedSite docs settings).respond click.now (click.request openIndex)).response

theorem respond_click (click : Click) (isOpen : IsOpen openIndex) {status : Int}
    {content : Http.Content}
    (answered : (toggleOf (toggleRecord openIndex click.index)).outcome.respond =
      .ok { status, content }) :
    (clickResponse docs settings click openIndex).status = status ∧
      (clickResponse docs settings click openIndex).content = content := by
  obtain ⟨route, params, served, endpoint⟩ := dispatch_toggle docs settings
  have method : (click.request openIndex).method ≠ "OPTIONS" :=
    (by decide : ("POST" : String) ≠ "OPTIONS")
  have routed : ((shippedSite docs settings).route click.now (click.request openIndex)).1 =
      .ok { status, content } := by
    rw [route_of_serve click.now (click.request openIndex) served, endpoint]
    simp only [Endpoint.handle, postToggle, bodyValue_request click isOpen, answered]
  exact respond_of_route method routed

theorem respond_shown (isOpen : IsOpen openIndex) :
    (shownOutcome openIndex).respond =
      .ok { status := 200, content := .json (siteAccordion openIndex).render.toJson } :=
  respond_answer_of_sound (view_isSound isOpen)

theorem respond_click_inside (click : Click) (isOpen : IsOpen openIndex)
    (inside : 0 ≤ click.index ∧ click.index < itemCount) :
    (clickResponse docs settings click openIndex).status = 200 ∧
      (clickResponse docs settings click openIndex).content =
        .json (siteAccordion (Accordion.toggled openIndex click.index)).render.toJson := by
  apply respond_click click isOpen
  rw [toggleOf_natural isOpen inside.1, toggleItem_inside isOpen inside,
    respond_shown (IsOpen.toggled inside)]

theorem respond_click_past (click : Click) (isOpen : IsOpen openIndex)
    (past : (itemCount : Int) ≤ click.index) :
    (clickResponse docs settings click openIndex).status = 404 ∧
      (clickResponse docs settings click openIndex).content =
        .json (SiteFault.itemNotFound click.index itemCount).body := by
  have natural : 0 ≤ click.index := Int.le_trans (Int.natCast_nonneg itemCount) past
  have sendable := itemNotFound_isSendable click.isWritable itemCount
    (isWritable_of_lt (by decide))
  apply respond_click click isOpen
  rw [toggleOf_natural isOpen natural, toggleItem_past isOpen past (click.isWritable)]
  exact jsonResponse_of_sendable sendable 404 []

theorem respond_click_negative (click : Click) (isOpen : IsOpen openIndex)
    (negative : click.index < 0) : (clickResponse docs settings click openIndex).status = 422 := by
  have plain : (negativeIssue click.index).IsPlain :=
    ⟨List.forall_mem_singleton.mpr (text_isSendable "index"),
      List.forall_mem_singleton.mpr (Json.isSendable_of_sound (isWritable_of_lt (by decide)))⟩
  have sendable : (report (issueErrors "body" [negativeIssue click.index])).isSendable = true := by
    rw [issueReport_isSendable_iff "body" (List.forall_mem_singleton.mpr plain),
      List.forall_mem_singleton]
    exact (Json.isSendable_whole_iff click.index).mpr click.isWritable
  have answered : (toggleOf (toggleRecord openIndex click.index)).outcome.respond =
      .ok { status := 422
            content := .json (report (issueErrors "body" [negativeIssue click.index])) } := by
    rw [toggleOf_negative isOpen negative]
    exact jsonResponse_of_sendable sendable 422 []
  exact (respond_click click isOpen answered).1

/-! ### The view -/

theorem queryValue?_view (n : Nat) :
    Http.queryValue? ("open_index=" ++ toString (n : Int)) "open_index" = some (toString n) := by
  have digits : (toString (n : Int)).toList = Nat.toDigits 10 n := Text.toList_toString_ofNat n
  have query : "open_index=" ++ toString (n : Int) =
      String.ofList ("open_index".toList ++ '=' :: Nat.toDigits 10 n) := by
    have name : "open_index=".toList = "open_index".toList ++ ['='] := by decide +kernel
    rw [← List.singleton_append, ← List.append_assoc, ← name, String.ofList_append,
      String.ofList_toList, ← digits, String.ofList_toList]
  have namePlain : Http.AllPlain "open_index".toList := by decide +kernel
  have valuePlain : Http.AllPlain (Nat.toDigits 10 n) := fun c member =>
    Http.isPlain_of_isDigit (Text.isDigit_of_mem_decimal member)
  have found := Http.queryValue?_single namePlain valuePlain
  rw [String.ofList_toList] at found
  rw [query, found, Nat.toString_eq_ofList_toDigits]

theorem respond_view (docs : Documentation) (settings : Settings) (now : String)
    (headers : List (String × String)) (isOpen : IsOpen openIndex) :
    let sent := ((shippedSite docs settings).respond now (viewRequest openIndex headers)).response
    sent.status = 200 ∧ sent.content = .json (siteAccordion openIndex).render.toJson := by
  obtain ⟨route, params, served, endpoint⟩ := dispatch_accordion docs settings
  have method : (viewRequest openIndex headers).method ≠ "OPTIONS" :=
    (by decide : ("GET" : String) ≠ "OPTIONS")
  have shown : (getAccordion (viewRequest openIndex headers)).outcome = shownOutcome openIndex := by
    cases openIndex with
    | none => exact showAccordion_open isOpen
    | some index =>
        obtain ⟨n, rfl⟩ := Int.eq_ofNat_of_zero_le (isOpen index rfl).1
        have read : (Schema.Shape.nullable Content.position).read .request
            (Json.ofString (toString n)) = .ok (.whole n) := by
          simp only [Json.ofString, Schema.Shape.read]
          exact Schema.position_read_text .request n (short_of_inside (isOpen n rfl))
        simp only [getAccordion, viewRequest, queryValue?_view, read]
        exact showAccordion_open isOpen
  have routed : ((shippedSite docs settings).route now (viewRequest openIndex headers)).1 =
      .ok { status := 200, content := .json (siteAccordion openIndex).render.toJson } := by
    rw [route_of_serve now (viewRequest openIndex headers) served, endpoint]
    simp only [Endpoint.handle, shown, respond_shown isOpen]
  exact respond_of_route method routed

/-! ### The refinement -/

/-- An exchange agrees with what a step of an accordion has done: it succeeds or fails alike, a
failure tells the reason, and a success shows the accordion after the step, as a request for this
view does. -/
structure Agrees (site : Site) (exchange : Exchange)
    (outcome : AccordionOutcome Unit QuotientFault) : Prop where
  success : exchange.response.status = 200 ↔ ∃ reply, outcome.reply = .ok reply
  missing : exchange.response.status = 404 ↔
    0 ≤ exchange.click.index ∧
      outcome.reply = .error (.index (.outOfRange ⟨exchange.click.index, faqItems.length⟩))
  invalid : exchange.response.status = 422 ↔
    exchange.click.index < 0 ∧
      outcome.reply = .error (.index (.outOfRange ⟨exchange.click.index, faqItems.length⟩))
  reason : exchange.response.status = 404 → ∃ body, exchange.response.content = .json body ∧
    body.field? "code" = some (Json.ofString "FAQ_ITEM_NOT_FOUND") ∧
    body.field? "details" = some (Json.ofFields
      [("index", .whole exchange.click.index), ("count", .whole faqItems.length)])
  openIndex : exchange.openIndex = outcome.next.accordion.openIndex
  shown : exchange.response.status = 200 →
    exchange.response.content = .json outcome.next.accordion.render.toJson
  view : exchange.response.status = 200 → ∀ now headers,
    let answer := (site.respond now (viewRequest exchange.openIndex headers)).response
    answer.status = 200 ∧ answer.content = exchange.response.content

theorem integerField?_view (view : AccordionView) :
    integerField? view.toJson "open_index" = view.openIndex := by
  have field : view.toJson.field? "open_index" =
      some (Json.ofOption Json.whole view.openIndex) := rfl
  rw [integerField?, field]
  cases view.openIndex <;> rfl

theorem itemNotFound_fields (index count : Int) :
    (SiteFault.itemNotFound index count).body.field? "code" =
        some (Json.ofString "FAQ_ITEM_NOT_FOUND") ∧
      (SiteFault.itemNotFound index count).body.field? "details" =
        some (Json.ofFields [("index", .whole index), ("count", .whole count)]) := by
  refine ⟨rfl, ?_⟩
  simp only [SiteFault.body, SiteFault.suggestion]
  split <;> rfl

theorem agrees_inside (docs : Documentation) (settings : Settings) (click : Click)
    (isOpen : IsOpen openIndex) (inside : 0 ≤ click.index ∧ click.index < itemCount) :
    let response := clickResponse docs settings click openIndex
    let after := Accordion.toggled openIndex click.index
    keptIndex openIndex response = after ∧
      Agrees (shippedSite docs settings) ⟨click, response, after⟩
        ((siteRun openIndex).perform siteMeasurer (.toggle click.index)) := by
  intro response after
  obtain ⟨status, content⟩ : response.status = 200 ∧
      response.content = .json (siteAccordion after).render.toJson :=
    respond_click_inside click isOpen inside
  refine ⟨?_, ?_⟩
  · rw [keptIndex, content]
    simp only [status, if_true]
    exact integerField?_view (siteAccordion after).render
  · rw [perform_toggle_inside isOpen inside]
    refine
      { success := iff_of_true status ⟨_, rfl⟩, missing := ?_, invalid := ?_, reason := ?_,
        openIndex := rfl, shown := fun _ => content, view := ?_ }
    · rw [status]
      exact iff_of_false (by decide) fun failed => nomatch failed.2
    · rw [status]
      exact iff_of_false (by decide) fun failed => nomatch failed.2
    · intro missing
      rw [status] at missing
      exact absurd missing (by decide)
    · intro _ now headers
      rw [content]
      exact respond_view docs settings now headers (IsOpen.toggled inside)

theorem keptIndex_of_failure {response : Http.Response} (failed : response.status ≠ 200) :
    keptIndex openIndex response = openIndex := by
  unfold keptIndex
  cases response.content with
  | json value => exact if_neg failed
  | text value => rfl
  | page value => rfl
  | raw media bytes => rfl
  | empty => rfl

/-- A failure on both sides. The sign of the index decides which one the site answers with. -/
theorem agrees_of_failure {site : Site} {click : Click} {response : Http.Response}
    (failed : response.status ≠ 200)
    (missing : response.status = 404 ↔ 0 ≤ click.index)
    (invalid : response.status = 422 ↔ click.index < 0)
    (content : response.status = 404 →
      response.content = .json (SiteFault.itemNotFound click.index itemCount).body) :
    Agrees site ⟨click, response, openIndex⟩
      { reply := .error (.index (.outOfRange ⟨click.index, itemCount⟩)), events := [],
        next := siteRun openIndex } := by
  refine
    { success := iff_of_false failed nofun, missing := ?_, invalid := ?_,
      reason := ?_, openIndex := rfl, shown := fun ok => absurd ok failed,
      view := fun ok => absurd ok failed }
  · rw [missing]
    exact (and_iff_left rfl).symm
  · rw [invalid]
    exact (and_iff_left rfl).symm
  · intro found
    exact ⟨_, content found, itemNotFound_fields click.index itemCount⟩

theorem agrees_outside (docs : Documentation) (settings : Settings) (click : Click)
    (isOpen : IsOpen openIndex) (outside : ¬ (0 ≤ click.index ∧ click.index < itemCount)) :
    let response := clickResponse docs settings click openIndex
    keptIndex openIndex response = openIndex ∧
      Agrees (shippedSite docs settings) ⟨click, response, openIndex⟩
        ((siteRun openIndex).perform siteMeasurer (.toggle click.index)) := by
  intro response
  rw [perform_toggle_past outside click.isWritable]
  by_cases negative : click.index < 0
  · have status : response.status = 422 := respond_click_negative click isOpen negative
    have failed : response.status ≠ 200 := by
      rw [status]
      decide
    have notMissing : response.status ≠ 404 := by
      rw [status]
      decide
    refine ⟨keptIndex_of_failure failed, agrees_of_failure failed ?_ ?_ ?_⟩
    · exact iff_of_false notMissing (Int.not_le.mpr negative)
    · exact iff_of_true status negative
    · intro found
      exact absurd found notMissing
  · have natural : 0 ≤ click.index := Int.not_lt.mp negative
    have past : (itemCount : Int) ≤ click.index :=
      Int.not_lt.mp fun small => outside ⟨natural, small⟩
    obtain ⟨status, content⟩ : response.status = 404 ∧
        response.content = .json (SiteFault.itemNotFound click.index itemCount).body :=
      respond_click_past click isOpen past
    have failed : response.status ≠ 200 := by
      rw [status]
      decide
    have notInvalid : response.status ≠ 422 := by
      rw [status]
      decide
    refine ⟨keptIndex_of_failure failed, agrees_of_failure failed ?_ ?_ fun _ => content⟩
    · exact iff_of_true status natural
    · exact iff_of_false notInvalid negative

/-- The exchanges of a client that starts with an open index agree, one by one, with the toggles of
the accordion that has this item open. -/
theorem converse_agrees (docs : Documentation) (settings : Settings) (clicks : List Click)
    (isOpen : IsOpen openIndex) :
    List.Forall₂ (Agrees (shippedSite docs settings))
      ((shippedSite docs settings).converse openIndex clicks)
      ((siteRun openIndex).performAll siteMeasurer (clicks.map fun click => .toggle click.index)) := by
  induction clicks generalizing openIndex with
  | nil => exact .nil
  | cons click rest ih =>
      rw [List.map_cons, Site.converse, AccordionRun.performAll]
      by_cases inside : 0 ≤ click.index ∧ click.index < itemCount
      · obtain ⟨kept, agrees⟩ := agrees_inside docs settings click isOpen inside
        simp only [clickResponse] at kept agrees
        rw [kept]
        apply List.Forall₂.cons agrees
        rw [perform_toggle_inside isOpen inside]
        exact ih (IsOpen.toggled inside)
      · obtain ⟨kept, agrees⟩ := agrees_outside docs settings click isOpen inside
        simp only [clickResponse] at kept agrees
        rw [kept]
        apply List.Forall₂.cons agrees
        rw [perform_toggle_past inside click.isWritable]
        exact ih isOpen

/-- The shipped application refines the accordion: a client that starts with nothing open sees, click
by click, what an accordion does that is mounted once and toggled alike. -/
theorem toggle_refines_accordion (docs : Documentation) (settings : Settings) (clicks : List Click) :
    ∃ site, (create docs settings defaultModules).site = .ok site ∧
      List.Forall₂ (Agrees site) (site.converse none clicks)
        ((AccordionRun.new faqItems ()).performAll siteMeasurer
          (.mount :: clicks.map fun click => .toggle click.index)).tail := by
  have noneOpen : IsOpen none := nofun
  refine ⟨shippedSite docs settings, create_shipped docs settings, ?_⟩
  rw [AccordionRun.performAll, List.tail_cons, perform_mount_new]
  exact converse_agrees docs settings clicks noneOpen

theorem toggle_refines_accordion_ends :
    ∃ site, (create .blank { rpcUrl := "http://localhost:8000" } defaultModules).site = .ok site ∧
      List.Forall₂ (Agrees site)
        (site.converse none [.plain 3 (by decide), .plain 4 (by decide), .plain (-1) (by decide),
          .plain 3 (by decide)])
        ((AccordionRun.new faqItems ()).performAll siteMeasurer
          [.mount, .toggle 3, .toggle 4, .toggle (-1), .toggle 3]).tail :=
  toggle_refines_accordion .blank { rpcUrl := "http://localhost:8000" }
    [.plain 3 (by decide), .plain 4 (by decide), .plain (-1) (by decide), .plain 3 (by decide)]

end SavingsSite.Service
