import Mathlib
import SavingsSite.Proofs.Accordion.History

set_option autoImplicit false

/-! The ids that tie the control of an item to its answer. The index can be read off an id of either
kind, and the two kinds differ in their fifth character, so no id occurs twice on a page. -/

namespace SavingsSite

variable {σ ε : Type}

/-! ### Two ids -/

theorem labelled_inj (label : String) {i j : Int} :
    label ++ toString i = label ++ toString j ↔ i = j := by
  rw [String.append_right_inj, Int.toString_eq_repr, Int.toString_eq_repr, Int.repr_inj]

theorem controlId_inj {i j : Int} : controlId i = controlId j ↔ i = j :=
  labelled_inj "faq-question-"

theorem answerId_inj {i j : Int} : answerId i = answerId j ↔ i = j :=
  labelled_inj "faq-answer-"

theorem controlId_ne_answerId (i j : Int) : controlId i ≠ answerId j := by
  intro same
  have fifth := congrArg (fun id : String => id.toList[4]?) same
  simp only [controlId, answerId, String.toList_append] at fifth
  rw [List.getElem?_append_left (by decide), List.getElem?_append_left (by decide)] at fifth
  exact absurd fifth (by decide)

/-! ### The ids of a view -/

/-- The ids of all controls, and behind them those of all answers. -/
def AccordionView.ids (view : AccordionView) : List String :=
  view.items.map ItemView.controlId ++ view.items.map ItemView.answerId

namespace Accordion

theorem length_render_items (a : Accordion) : a.render.items.length = a.size :=
  List.length_mapIdx

theorem map_render_items {α : Type} (a : Accordion) (shown : ItemView → α) (ofIndex : Nat → α)
    (tied : ∀ item index, shown (a.viewItem item index) = ofIndex index) :
    a.render.items.map shown = (List.range a.size).map ofIndex := by
  apply List.ext_getElem
  · rw [List.length_map, List.length_map, List.length_range, length_render_items]
  · intro index inItems inRange
    simp only [render, List.getElem_map, List.getElem_mapIdx, List.getElem_range, tied]

theorem nodup_ofIndices {id : Int → String} (inj : ∀ {i j}, id i = id j ↔ i = j) (count : Nat) :
    ((List.range count).map fun index : Nat => id index).Nodup := by
  apply List.Nodup.map _ List.nodup_range
  intro i j same
  exact Int.ofNat.inj (inj.mp same)

theorem nodup_render_ids (a : Accordion) : a.render.ids.Nodup := by
  have controls := a.map_render_items ItemView.controlId
    (fun index => SavingsSite.controlId index) fun _ _ => rfl
  have answers := a.map_render_items ItemView.answerId
    (fun index => SavingsSite.answerId index) fun _ _ => rfl
  rw [AccordionView.ids, controls, answers, List.nodup_append]
  refine ⟨nodup_ofIndices controlId_inj a.size, nodup_ofIndices answerId_inj a.size, ?_⟩
  intro control isControl answer isAnswer
  obtain ⟨i, _, rfl⟩ := List.mem_map.mp isControl
  obtain ⟨j, _, rfl⟩ := List.mem_map.mp isAnswer
  exact controlId_ne_answerId i j

/-! ### The items of a run -/

theorem measuredBy_items (a : Accordion) (found : Except ε (List Int)) :
    (a.measuredBy found).items = a.items := by
  cases found with
  | error fault => rfl
  | ok heights =>
      simp only [measuredBy]
      split <;> rfl

theorem stepped_items (a : Accordion) (found : Except ε (List Int)) (step : AccordionStep) :
    (a.stepped found step).items = a.items := by
  cases step with
  | toggle index =>
      simp only [stepped]
      split <;> rfl
  | mount => exact a.measuredBy_items found
  | measure => exact a.measuredBy_items found
  | _ => rfl

end Accordion

theorem AccordionRun.after_items (m : ItemMeasurer σ ε) (run : AccordionRun σ)
    (steps : List AccordionStep) : (run.after m steps).accordion.items = run.accordion.items := by
  induction steps generalizing run with
  | nil => rfl
  | cons step rest ih => rw [after, ih, perform_accordion, Accordion.stepped_items]

/-- Ids of one kind are equal only for one index, and those of different kinds never. So after any
steps, also failed ones and any choice of the open item, a view shows every item, and all the ids of
its controls and answers are different. -/
theorem ids_pairwise_distinct (items : List FaqItem) (m : ItemMeasurer σ ε) (s : σ)
    (steps : List AccordionStep) :
    (∀ i j, answerId i = answerId j ↔ i = j) ∧ (∀ i j, controlId i = controlId j ↔ i = j) ∧
    (∀ i j, answerId i ≠ controlId j) ∧
    ∃ view, (((AccordionRun.new items s).after m steps).perform m .render).reply =
        .ok (.view view) ∧
      view.items.length = items.length ∧ view.ids.Nodup := by
  refine ⟨fun _ _ => answerId_inj, fun _ _ => controlId_inj,
    fun i j => (controlId_ne_answerId j i).symm, _, rfl, ?_, Accordion.nodup_render_ids _⟩
  rw [Accordion.length_render_items, Accordion.size, AccordionRun.after_items]
  rfl

end SavingsSite
