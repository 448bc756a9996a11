import Mathlib.Data.List.DropRight
import SavingsSite.Proofs.Accordion.Lifecycle

set_option autoImplicit false

/-! The state of an accordion read off its history. What came before the last unmount is forgotten;
of the steps behind it only the clicks inside the list count, and whether any of them measured. The
open item follows from the last clicks alone, without a replay of those before. -/

namespace SavingsSite

variable {σ ε : Type}

/-! ### Histories -/

namespace AccordionStep

/-- The steps behind the last unmount, or all of them. -/
def sinceUnmount (steps : List AccordionStep) : List AccordionStep :=
  steps.rtakeWhile (· ≠ .unmount)

def clicked? : AccordionStep → Option Int
  | toggle index => some index
  | _ => none

/-- The indices of the toggles behind the last unmount, in order. -/
def clicks (steps : List AccordionStep) : List Int := (sinceUnmount steps).filterMap clicked?

def hits (size : Nat) (steps : List AccordionStep) : List Int :=
  (clicks steps).filter fun index : Int => 0 ≤ index && index < size

theorem sinceUnmount_concat (steps : List AccordionStep) {step : AccordionStep}
    (stays : step ≠ .unmount) :
    sinceUnmount (steps ++ [step]) = sinceUnmount steps ++ [step] :=
  List.rtakeWhile_concat_pos _ _ _ (decide_eq_true stays)

theorem sinceUnmount_unmount (steps : List AccordionStep) :
    sinceUnmount (steps ++ [.unmount]) = [] :=
  List.rtakeWhile_concat_neg _ _ _ (by decide)

theorem hits_concat (size : Nat) (steps : List AccordionStep) {step : AccordionStep}
    (stays : step ≠ .unmount) :
    hits size (steps ++ [step]) = hits size steps ++
      step.clicked?.toList.filter fun index : Int => 0 ≤ index && index < size := by
  rw [hits, clicks, sinceUnmount_concat steps stays, List.filterMap_append, List.filter_append]
  cases step <;> rfl

theorem hits_unmount (size : Nat) (steps : List AccordionStep) :
    hits size (steps ++ [.unmount]) = [] := by
  rw [hits, clicks, sinceUnmount_unmount]
  rfl

theorem quiet_of_measures {step : AccordionStep} (asked : step.measures = true) :
    step ≠ .unmount ∧ step.clicked? = none := by
  cases step with
  | mount => exact ⟨by simp, rfl⟩
  | measure => exact ⟨by simp, rfl⟩
  | _ => cases asked

end AccordionStep

open AccordionStep (sinceUnmount hits)

theorem measuredSince_iff (steps : List AccordionStep) :
    MeasuredSince steps ↔ (sinceUnmount steps).any AccordionStep.measures = true := by
  induction steps using List.reverseRecOn with
  | nil =>
      constructor
      · rintro ⟨early, step, late, split, _⟩
        exact absurd split.symm (List.append_ne_nil_of_right_ne_nil early (List.cons_ne_nil _ _))
      · intro impossible
        cases impossible
  | append_singleton early last ih =>
      rw [measuredSince_concat_iff, ih]
      by_cases dropped : last = .unmount
      · subst dropped
        rw [AccordionStep.sinceUnmount_unmount]
        simp only [AccordionStep.measures, ne_eq, not_true_eq_false, false_and, or_self,
          Bool.false_eq_true, List.any_nil]
      · rw [AccordionStep.sinceUnmount_concat early dropped, List.any_append, Bool.or_eq_true,
          List.any_cons, List.any_nil, Bool.or_false, and_iff_right dropped, or_comm]

/-! ### One step -/

namespace Accordion

/-- The accordion with the heights that a measurement finds, unless it has heights or the
measurement fails. -/
def measuredBy (a : Accordion) : Except ε (List Int) → Accordion
  | .ok heights => if a.measured then a else { a with heights, measured := true }
  | .error _ => a

/-- What a step makes of an accordion whose items a measurement would find `found` for. -/
def stepped (found : Except ε (List Int)) (a : Accordion) : AccordionStep → Accordion
  | .toggle index =>
      if a.inRange index then { a with openIndex := toggled a.openIndex index } else a
  | .mount | .measure => a.measuredBy found
  | .unmount => a.unmount
  | .setOpen index => { a with openIndex := index }
  | _ => a

end Accordion

namespace AccordionRun

theorem measureWith_accordion (m : ItemMeasurer σ ε) (run : AccordionRun σ)
    (reply : Accordion → AccordionReply) :
    (measureWith m run reply).next.accordion =
      run.accordion.measuredBy (m.measureAll run.accordion.items run.measurer).1 := by
  unfold measureWith
  cases measured : run.accordion.measured with
  | true =>
      cases (m.measureAll run.accordion.items run.measurer).1 <;>
        simp only [Accordion.measuredBy, measured, if_true]
  | false =>
      rcases m.measureAll run.accordion.items run.measurer with ⟨answer, state⟩
      cases answer <;> simp only [Accordion.measuredBy, measured, logged_next,
        Bool.false_eq_true, if_false]

theorem perform_accordion (m : ItemMeasurer σ ε) (run : AccordionRun σ) (step : AccordionStep) :
    (run.perform m step).next.accordion =
      run.accordion.stepped (m.measureAll run.accordion.items run.measurer).1 step := by
  cases step with
  | toggle index =>
      simp only [perform, Accordion.stepped]
      cases moved : run.accordion.toggle index with
      | error fault =>
          obtain ⟨outside, _⟩ := (Accordion.toggle_eq_error_iff _ _ _).mp moved
          rw [outside]
          rfl
      | ok after =>
          obtain ⟨inside, rfl⟩ := (Accordion.toggle_eq_ok_iff _ _ _).mp moved
          simp only [inside, logged_next, if_true]
  | mount => exact measureWith_accordion m run fun _ => .mounted
  | measure => exact measureWith_accordion m run fun measured => .heights measured.heights
  | isExpanded index => rfl
  | heightOf index => rfl
  | unmount => rfl
  | render => rfl
  | length => rfl
  | setOpen index => rfl

theorem perform_toggle_outside (m : ItemMeasurer σ ε) (run : AccordionRun σ) {index : Int}
    (outside : ¬ (0 ≤ index ∧ index < run.accordion.items.length)) :
    (run.perform m (.toggle index)).reply =
        .error (.index (.ofIndex index run.accordion.items.length)) ∧
      (run.perform m (.toggle index)).next = run := by
  have refused : run.accordion.toggle index =
      .error (.ofIndex index run.accordion.items.length) := by
    rw [Accordion.toggle_eq_error_iff, Bool.eq_false_iff, ne_eq, Accordion.inRange_iff]
    exact ⟨outside, rfl⟩
  simp only [perform, refused]
  exact ⟨rfl, rfl⟩

end AccordionRun

/-! ### The state after a history -/

namespace Accordion

/-- The accordion that a history leads to, when a measurement finds `found`. -/
def ofHistory (items : List FaqItem) (found : Except ε (List Int)) (steps : List AccordionStep) :
    Accordion :=
  let closed := ofItems items
  let measured := if (sinceUnmount steps).any AccordionStep.measures then closed.measuredBy found
    else closed
  { measured with openIndex := (hits items.length steps).foldl toggled none }

theorem ofHistory_items (items : List FaqItem) (found : Except ε (List Int))
    (steps : List AccordionStep) : (ofHistory items found steps).items = items := by
  cases found <;> simp only [ofHistory, ofItems, measuredBy] <;> split <;> rfl

theorem ofHistory_concat (items : List FaqItem) (found : Except ε (List Int))
    (steps : List AccordionStep) {step : AccordionStep} (stays : step ≠ .unmount)
    (quiet : step.measures = false) :
    ofHistory items found (steps ++ [step]) =
      { ofHistory items found steps with
        openIndex := (step.clicked?.toList.filter fun index : Int =>
          0 ≤ index && index < items.length).foldl toggled
            (ofHistory items found steps).openIndex } := by
  simp only [ofHistory, AccordionStep.sinceUnmount_concat steps stays,
    AccordionStep.hits_concat items.length steps stays, List.any_append, List.any_cons, quiet,
    List.any_nil, Bool.or_false, List.foldl_append]

/-- Heights that are there stay; else a measurement that fails leaves room for a later one. -/
theorem measuredBy_ofHistory (items : List FaqItem) (found again : Except ε (List Int))
    (steps : List AccordionStep) {step : AccordionStep} (asked : step.measures = true) :
    ∃ kept, (kept = found ∨ kept = again) ∧
      (ofHistory items found steps).measuredBy again = ofHistory items kept (steps ++ [step]) := by
  obtain ⟨stays, unclicked⟩ := AccordionStep.quiet_of_measures asked
  have since : (sinceUnmount (steps ++ [step])).any AccordionStep.measures = true := by
    rw [AccordionStep.sinceUnmount_concat steps stays, List.any_append, List.any_cons, asked,
      Bool.true_or, Bool.or_true]
  have sameHits : hits items.length (steps ++ [step]) = hits items.length steps := by
    rw [AccordionStep.hits_concat items.length steps stays, unclicked]
    exact List.append_nil _
  simp only [ofHistory, since, sameHits, if_true]
  cases before : (sinceUnmount steps).any AccordionStep.measures with
  | false =>
      refine ⟨again, Or.inr rfl, ?_⟩
      cases again <;> rfl
  | true =>
      cases found with
      | ok heights =>
          refine ⟨.ok heights, Or.inl rfl, ?_⟩
          cases again <;> rfl
      | error fault =>
          refine ⟨again, Or.inr rfl, ?_⟩
          cases again <;> rfl

theorem stepped_ofHistory (items : List FaqItem) (found again : Except ε (List Int))
    (steps : List AccordionStep) {step : AccordionStep} (operation : step.isOperation = true) :
    ∃ kept, (kept = found ∨ kept = again) ∧
      (ofHistory items found steps).stepped again step =
        ofHistory items kept (steps ++ [step]) := by
  have idle (quiet : AccordionStep) (stays : quiet ≠ .unmount) (asksNot : quiet.measures = false)
      (unclicked : quiet.clicked? = none) :
      ofHistory items found steps = ofHistory items found (steps ++ [quiet]) := by
    rw [ofHistory_concat items found steps stays asksNot, unclicked]
    rfl
  cases step with
  | toggle index =>
      have stays : AccordionStep.toggle index ≠ .unmount := by simp
      have inside : (ofHistory items found steps).inRange index =
          (decide (0 ≤ index) && decide (index < items.length)) := by
        rw [inRange, size, ofHistory_items]
      refine ⟨found, Or.inl rfl, ?_⟩
      rw [ofHistory_concat items found steps stays rfl, stepped, inside]
      simp only [AccordionStep.clicked?, Option.toList_some, List.filter_cons, List.filter_nil]
      split <;> rfl
  | mount => exact measuredBy_ofHistory items found again steps rfl
  | measure => exact measuredBy_ofHistory items found again steps rfl
  | unmount =>
      refine ⟨found, Or.inl rfl, ?_⟩
      rw [stepped, unmount, ofHistory_items]
      simp only [ofHistory, AccordionStep.sinceUnmount_unmount, AccordionStep.hits_unmount]
      rfl
  | isExpanded index => exact ⟨found, Or.inl rfl, idle _ (by simp) rfl rfl⟩
  | heightOf index => exact ⟨found, Or.inl rfl, idle _ (by simp) rfl rfl⟩
  | render => exact ⟨found, Or.inl rfl, idle _ (by simp) rfl rfl⟩
  | length => exact ⟨found, Or.inl rfl, idle _ (by simp) rfl rfl⟩
  | setOpen index => cases operation

end Accordion

/-- The state is that of the history with one of the outcomes that a measurement may have. -/
theorem AccordionRun.exists_ofHistory (m : ItemMeasurer σ ε) (items : List FaqItem) (s : σ)
    {steps : List AccordionStep} (operations : ∀ step ∈ steps, step.isOperation = true) :
    ∃ t, ((new items s).after m steps).accordion =
      Accordion.ofHistory items (m.measureAll items t).1 steps := by
  induction steps using List.reverseRecOn with
  | nil => exact ⟨s, rfl⟩
  | append_singleton early last ih =>
      obtain ⟨t, state⟩ := ih fun step member =>
        operations step (List.mem_append_left [last] member)
      have operation := operations last (List.mem_append_right early List.mem_cons_self)
      obtain ⟨kept, outcome, next⟩ := Accordion.stepped_ofHistory items (m.measureAll items t).1
        (m.measureAll items ((new items s).after m early).measurer).1 early operation
      rw [after_concat, perform_accordion, state, Accordion.ofHistory_items, next]
      rcases outcome with rfl | rfl
      · exact ⟨t, rfl⟩
      · exact ⟨_, rfl⟩

/-! ### The open item -/

def streak (index : Int) (clicks : List Int) : Nat := (clicks.rtakeWhile (· = index)).length

theorem streak_concat_self (index : Int) (clicks : List Int) :
    streak index (clicks ++ [index]) = streak index clicks + 1 := by
  have hit : decide (index = index) = true := decide_eq_true rfl
  rw [streak, List.rtakeWhile_concat_pos (fun other => decide (other = index)) clicks index hit,
    List.length_append]
  rfl

theorem streak_of_other {index last : Int} {clicks : List Int}
    (ends : clicks.getLast? = some last) (differs : last ≠ index) : streak index clicks = 0 := by
  rw [streak, List.length_eq_zero_iff, List.rtakeWhile_eq_nil_iff]
  intro nonempty
  rw [List.getLast?_eq_some_getLast nonempty, Option.some.injEq] at ends
  rw [ends, decide_eq_true_eq]
  exact differs

/-- After an odd number of last clicks on one index it is open, after an even number nothing is. -/
theorem foldl_toggled {clicks : List Int} {index : Int} (ends : clicks.getLast? = some index) :
    clicks.foldl Accordion.toggled none =
      if streak index clicks % 2 = 1 then some index else none := by
  induction clicks using List.reverseRecOn generalizing index with
  | nil => cases ends
  | append_singleton early last ih =>
      rw [List.getLast?_concat, Option.some.injEq] at ends
      subst ends
      rw [List.foldl_append, streak_concat_self]
      cases before : early.getLast? with
      | none =>
          rw [List.getLast?_eq_none_iff] at before
          subst before
          rfl
      | some previous =>
          rw [ih before, List.foldl_cons, List.foldl_nil, Accordion.toggled]
          by_cases same : previous = last
          · subst same
            rcases Nat.mod_two_eq_zero_or_one (streak previous early) with even | odd
            · have next : (streak previous early + 1) % 2 = 1 := by omega
              rw [next, even]
              rfl
            · have next : (streak previous early + 1) % 2 = 0 := by omega
              simp only [next, odd, if_true, Nat.zero_ne_one, if_false]
          · have elsewhere : (if streak previous early % 2 = 1 then some previous else none) ≠
                some last := by
              split
              · exact fun opened => same (Option.some.inj opened)
              · exact (Option.some_ne_none last).symm
            rw [if_neg elsewhere, streak_of_other before same]
            rfl

namespace ItemMeasurer

/-- What the measurer finds for an item depends on the item alone. -/
def Consistent (m : ItemMeasurer σ ε) : Prop :=
  ∀ item s t, (m.measure item s).1 = (m.measure item t).1

theorem Consistent.measureAll {m : ItemMeasurer σ ε} (consistent : m.Consistent)
    (items : List FaqItem) (s t : σ) : (m.measureAll items s).1 = (m.measureAll items t).1 := by
  induction items generalizing s t with
  | nil => rfl
  | cons item rest ih =>
      have first := consistent item s t
      rcases found : m.measure item s with ⟨answer, next⟩
      rcases foundToo : m.measure item t with ⟨answerToo, nextToo⟩
      rw [found, foundToo] at first
      cases first
      cases answer with
      | error fault => simp only [ItemMeasurer.measureAll, found, foundToo]
      | ok height => simp only [ItemMeasurer.measureAll, found, foundToo, ih next nextToo]

end ItemMeasurer

theorem TextMeasurer.itemMeasurer_consistent (m : TextMeasurer) : m.itemMeasurer.Consistent :=
  fun _ _ _ => rfl

/-- Histories with the same clicks behind their last unmounts show the same, if both have measured
there or neither has: when and how often, and what came before, is not to be seen. -/
theorem render_of_same_clicks (items : List FaqItem) (m : ItemMeasurer σ ε)
    (consistent : m.Consistent) (s t : σ) (steps others : List AccordionStep)
    (operations : ∀ step ∈ steps ++ others, step.isOperation = true)
    (sameClicks : AccordionStep.clicks steps = AccordionStep.clicks others)
    (sameMeasured : MeasuredSince steps ↔ MeasuredSince others) :
    ∃ view,
      (((AccordionRun.new items s).after m steps).perform m .render).reply = .ok (.view view) ∧
      (((AccordionRun.new items t).after m others).perform m .render).reply = .ok (.view view) := by
  rw [List.forall_mem_append] at operations
  obtain ⟨first, state⟩ := AccordionRun.exists_ofHistory m items s operations.1
  obtain ⟨second, otherState⟩ := AccordionRun.exists_ofHistory m items t operations.2
  have sameHits : hits items.length steps = hits items.length others := by
    rw [hits, hits, sameClicks]
  rw [measuredSince_iff, measuredSince_iff, ← Bool.eq_iff_iff] at sameMeasured
  have same : ((AccordionRun.new items s).after m steps).accordion =
      ((AccordionRun.new items t).after m others).accordion := by
    rw [state, otherState, consistent.measureAll items first second, Accordion.ofHistory,
      Accordion.ofHistory, sameMeasured, sameHits]
  refine ⟨((AccordionRun.new items s).after m steps).accordion.render, rfl, ?_⟩
  rw [same]
  rfl

theorem render_of_same_clicks_remounted :
    let steps := [.mount, .toggle 2, .unmount, .toggle 0, .measure, .toggle 7, .toggle 1, .mount]
    let others := [.toggle 0, .isExpanded 3, .toggle 7, .render, .toggle 1, .mount]
    let m := TextMeasurer.standard.itemMeasurer
    m.Consistent ∧ (∀ step ∈ steps ++ others, AccordionStep.isOperation step = true) ∧
      AccordionStep.clicks steps = AccordionStep.clicks others ∧
      (MeasuredSince steps ↔ MeasuredSince others) ∧ ∃ view,
      (((AccordionRun.new Content.faqItems ()).after m steps).perform m .render).reply =
        .ok (.view view) ∧
      (((AccordionRun.new Content.faqItems ()).after m others).perform m .render).reply =
        .ok (.view view) := by
  intro steps others m
  have operations : ∀ step ∈ steps ++ others, AccordionStep.isOperation step = true := by decide
  have sameClicks : AccordionStep.clicks steps = AccordionStep.clicks others := by decide
  have sameMeasured : MeasuredSince steps ↔ MeasuredSince others := by
    rw [measuredSince_iff, measuredSince_iff]
    decide
  exact ⟨TextMeasurer.standard.itemMeasurer_consistent, operations, sameClicks, sameMeasured,
    render_of_same_clicks Content.faqItems m TextMeasurer.standard.itemMeasurer_consistent () ()
      steps others operations sameClicks sameMeasured⟩

end SavingsSite
