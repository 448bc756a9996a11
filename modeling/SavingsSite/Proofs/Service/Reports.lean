import SavingsSite.Proofs.Schema.Positions
import SavingsSite.Proofs.Service.Answers

set_option autoImplicit false

/-! What is sent when a request fails: the record of a fault, and the report on input that is not
valid. Both can be sent when what they show of the fault or of the input can. -/

namespace SavingsSite.Service

theorem text_isSendable (text : String) : (Json.ofString text).isSendable = true :=
  Json.isSendable_of_sound rfl

/-! ### Records of faults -/

theorem body_eq (fault : SiteFault) :
    fault.body = Json.ofFields (
      [("detail", Json.ofString fault.message), ("code", Json.ofString fault.code)] ++
      ((fault.suggestion.filter (· ≠ "")).map fun text =>
        ("suggestion", Json.ofString text)).toList ++
      if fault.details.isVoid then [] else [("details", fault.details)]) := by
  rw [SiteFault.body]
  cases fault.suggestion with
  | none => rfl
  | some text =>
      rw [Option.filter_some]
      by_cases empty : text = ""
      · simp only [empty, ne_eq, not_true_eq_false, decide_false, Bool.false_eq_true, if_true,
          if_false]
        rfl
      · simp only [empty, ne_eq, not_false_eq_true, decide_true, if_true, if_false]
        rfl

theorem body_isSendable_iff (fault : SiteFault) :
    fault.body.isSendable = true ↔ fault.details.isSendable = true := by
  have suggestion : ∀ field ∈ ((fault.suggestion.filter (· ≠ "")).map fun text =>
      ("suggestion", Json.ofString text)).toList, field.2.isSendable = true := by
    cases fault.suggestion.filter (· ≠ "") with
    | none => exact List.forall_mem_nil _
    | some words => exact List.forall_mem_singleton.mpr (text_isSendable words)
  have details : (∀ field ∈ (if fault.details.isVoid then [] else [("details", fault.details)]),
      field.2.isSendable = true) ↔ fault.details.isSendable = true := by
    cases void : fault.details.isVoid with
    | true => exact iff_of_true (List.forall_mem_nil _) (Json.isSendable_of_isVoid void)
    | false => exact List.forall_mem_singleton
  rw [body_eq, Json.isSendable_ofFields_iff, List.forall_mem_append, List.forall_mem_append,
    details]
  simp only [List.forall_mem_cons, text_isSendable, true_and]
  exact ⟨fun sendable => sendable.2, fun sendable => ⟨⟨List.forall_mem_nil _, suggestion⟩, sendable⟩⟩

theorem itemNotFound_isSendable {index : Int} (writable : isWritable index = true) (count : Int)
    (countWritable : isWritable count = true) :
    (SiteFault.itemNotFound index count).body.isSendable = true := by
  rw [body_isSendable_iff, SiteFault.details, Json.isSendable_ofFields_iff, List.forall_mem_cons,
    List.forall_mem_singleton, Json.isSendable_whole_iff, Json.isSendable_whole_iff]
  exact ⟨writable, countWritable⟩

/-! ### Reports on refused input -/

theorem detail_isSendable_iff (detail : Detail) :
    detail.toJson.isSendable = true ↔
      (∀ part ∈ detail.location, part.isSendable = true) ∧
        (shown detail.input).isSendable = true ∧
        ∀ field ∈ detail.context, field.2.isSendable = true := by
  have context : (∀ field ∈ (if detail.context.isEmpty then [] else
      [("ctx", Json.ofFields detail.context)]), field.2.isSendable = true) ↔
      ∀ field ∈ detail.context, field.2.isSendable = true := by
    cases detail.context with
    | nil => exact iff_of_true (List.forall_mem_nil _) (List.forall_mem_nil _)
    | cons first rest =>
        rw [if_neg (by exact Bool.false_ne_true), List.forall_mem_singleton,
          Json.isSendable_ofFields_iff]
  rw [Detail.toJson, Json.isSendable_ofFields_iff, List.forall_mem_append, context]
  simp only [List.forall_mem_cons, text_isSendable, Json.isSendable_list_iff, true_and,
    List.not_mem_nil, false_implies, implies_true, and_true, and_assoc]

theorem issue_isSendable_iff (part : String) {issue : Schema.Issue} (plain : issue.IsPlain) :
    (Detail.ofIssue part issue).toJson.isSendable = true ↔
      (shown issue.input).isSendable = true := by
  have location : ∀ place ∈ (Detail.ofIssue part issue).location, place.isSendable = true := by
    rw [Detail.ofIssue, List.forall_mem_cons, List.forall_mem_map]
    exact ⟨text_isSendable part, plain.1⟩
  rw [detail_isSendable_iff]
  exact ⟨fun sendable => sendable.2.1, fun sendable => ⟨location, sendable, plain.2⟩⟩

theorem malformed_isSendable_iff (reason : Json.Body.Reason) (offset : Nat) :
    (Detail.ofMalformed reason offset).toJson.isSendable = true ↔ isWritable offset = true := by
  have input : (shown (.record [])).isSendable = true := Json.isSendable_of_sound rfl
  rw [detail_isSendable_iff, Detail.ofMalformed, List.forall_mem_cons, List.forall_mem_singleton,
    List.forall_mem_singleton, Json.isSendable_whole_iff]
  simp only [text_isSendable, input, true_and, and_true]

def report (errors : List Json) : Json := Json.ofFields [("detail", .list errors)]

theorem report_isSendable_iff (errors : List Json) :
    (report errors).isSendable = true ↔ ∀ error ∈ errors, error.isSendable = true := by
  rw [report, Json.isSendable_ofFields_iff, List.forall_mem_singleton, Json.isSendable_list_iff]

def issueErrors (part : String) (issues : List Schema.Issue) : List Json :=
  (issues.map (Detail.ofIssue part)).map Detail.toJson

theorem issueReport_isSendable_iff (part : String) {issues : List Schema.Issue}
    (plain : ∀ issue ∈ issues, issue.IsPlain) :
    (report (issueErrors part issues)).isSendable = true ↔
      ∀ issue ∈ issues, (shown issue.input).isSendable = true := by
  rw [report_isSendable_iff, issueErrors, List.forall_mem_map, List.forall_mem_map]
  refine forall₂_congr fun issue member => ?_
  exact issue_isSendable_iff part (plain issue member)

end SavingsSite.Service
