import Mathlib.Data.List.Induction
import SavingsSite.Proofs.Accordion.Steps

set_option autoImplicit false

/-! The life of an accordion over any sequence of operations. A record of the answers of the
measurer stands beside the run: the heights of a measured accordion are the last answers in it, one
for each item in order, and each pass over the items comes from one step that found no heights. -/

namespace SavingsSite

variable {σ ε : Type}

abbrev Answer := FaqItem × Int

namespace ItemMeasurer

/-- The measurer with a record of its answers, which it never reads. -/
def recorded (m : ItemMeasurer σ ε) : ItemMeasurer (σ × List Answer) ε where
  measure item s :=
    match m.measure item s.1 with
    | (.error fault, next) => (.error fault, (next, s.2))
    | (.ok height, next) => (.ok height, (next, s.2 ++ [(item, height)]))

theorem Total.recorded {m : ItemMeasurer σ ε} (total : m.Total) : m.recorded.Total := by
  intro item s
  obtain ⟨height, next, answered⟩ := total item s.1
  refine ⟨height, (next, s.2 ++ [(item, height)]), ?_⟩
  simp only [ItemMeasurer.recorded, answered]

theorem measureAll_recorded (m : ItemMeasurer σ ε) (items : List FaqItem)
    (s : σ × List Answer) :
    (m.recorded.measureAll items s).1 = (m.measureAll items s.1).1 ∧
      (m.recorded.measureAll items s).2.1 = (m.measureAll items s.1).2 := by
  induction items generalizing s with
  | nil => exact ⟨rfl, rfl⟩
  | cons item rest ih =>
      obtain ⟨state, answers⟩ := s
      cases answered : m.measure item state with
      | mk answer next =>
          cases answer with
          | error fault => simp only [measureAll, recorded, answered, and_self]
          | ok height =>
              obtain ⟨sameHeights, sameState⟩ := ih (next, answers ++ [(item, height)])
              simp only [recorded] at sameHeights sameState
              simp only [measureAll, recorded, answered, sameHeights, sameState, and_self]

theorem recorded_of_measureAll {m : ItemMeasurer σ ε} {items : List FaqItem}
    {s next : σ × List Answer} {heights : List Int}
    (found : m.recorded.measureAll items s = (.ok heights, next)) :
    heights.length = items.length ∧ next.2 = s.2 ++ items.zip heights := by
  induction items generalizing s heights with
  | nil =>
      cases found
      exact ⟨rfl, (List.append_nil _).symm⟩
  | cons item rest ih =>
      obtain ⟨state, answers⟩ := s
      cases answered : m.measure item state with
      | mk answer after =>
          cases answer with
          | error fault =>
              simp only [measureAll, recorded, answered] at found
              cases found
          | ok height =>
              cases later : m.recorded.measureAll rest (after, answers ++ [(item, height)]) with
              | mk answer last =>
                  have first : m.recorded.measure item (state, answers) =
                      (.ok height, (after, answers ++ [(item, height)])) := by
                    simp only [recorded, answered]
                  simp only [measureAll, first, later] at found
                  cases answer with
                  | error fault => cases found
                  | ok more =>
                      cases found
                      obtain ⟨sameLength, record⟩ := ih later
                      refine ⟨by rw [List.length_cons, List.length_cons, sameLength], ?_⟩
                      rw [record, List.zip_cons_cons, List.append_assoc, List.singleton_append]

end ItemMeasurer

namespace AccordionRun

def unrecorded (run : AccordionRun (σ × List Answer)) : AccordionRun σ :=
  ⟨run.accordion, run.measurer.1⟩

theorem measureWith_recorded (m : ItemMeasurer σ ε) (run : AccordionRun (σ × List Answer))
    (reply : Accordion → AccordionReply) :
    (measureWith m.recorded run reply).next.unrecorded =
      (measureWith m run.unrecorded reply).next := by
  obtain ⟨heights, state⟩ := m.measureAll_recorded run.accordion.items run.measurer
  unfold measureWith
  by_cases measured : run.accordion.measured = true
  · simp only [unrecorded, measured, if_true]
  · simp only [unrecorded, measured, Bool.false_eq_true, if_false]
    rcases found : m.measureAll run.accordion.items run.measurer.1 with ⟨answer, after⟩
    rcases again : m.recorded.measureAll run.accordion.items run.measurer with ⟨answerToo, next⟩
    rw [found, again] at heights state
    simp only at heights state
    rw [heights, ← state]
    cases answer with
    | error fault => rfl
    | ok heights => simp only [logged_next]

theorem perform_recorded (m : ItemMeasurer σ ε) (run : AccordionRun (σ × List Answer))
    (step : AccordionStep) :
    (run.perform m.recorded step).next.unrecorded = (run.unrecorded.perform m step).next := by
  cases step with
  | toggle index =>
      simp only [perform, unrecorded]
      cases run.accordion.toggle index with
      | error fault => rfl
      | ok after => simp only [logged_next]
  | isExpanded index => rfl
  | heightOf index => rfl
  | mount => exact measureWith_recorded m run fun _ => .mounted
  | measure => exact measureWith_recorded m run fun measured => .heights measured.heights
  | unmount => rfl
  | render => rfl
  | length => rfl
  | setOpen index => rfl

theorem after_recorded (m : ItemMeasurer σ ε) (run : AccordionRun (σ × List Answer))
    (steps : List AccordionStep) :
    (run.after m.recorded steps).unrecorded = run.unrecorded.after m steps := by
  induction steps generalizing run with
  | nil => rfl
  | cons step rest ih => rw [after, after, ih, perform_recorded]

/-- The number of steps that ask for the heights when there are none. -/
def passes (m : ItemMeasurer σ ε) (run : AccordionRun σ) : List AccordionStep → Nat
  | [] => 0
  | step :: rest =>
      (step.measures && !run.accordion.measured).toNat + (run.perform m step).next.passes m rest

theorem passes_concat (m : ItemMeasurer σ ε) (run : AccordionRun σ) (steps : List AccordionStep)
    (step : AccordionStep) :
    run.passes m (steps ++ [step]) =
      run.passes m steps + (step.measures && !(run.after m steps).accordion.measured).toNat := by
  induction steps generalizing run with
  | nil => simp only [List.nil_append, passes, after, Nat.add_zero, Nat.zero_add]
  | cons first rest ih => simp only [List.cons_append, passes, after, ih, Nat.add_assoc]

theorem passes_recorded (m : ItemMeasurer σ ε) (run : AccordionRun (σ × List Answer))
    (steps : List AccordionStep) :
    run.passes m.recorded steps = run.unrecorded.passes m steps := by
  induction steps generalizing run with
  | nil => rfl
  | cons step rest ih =>
      rw [passes, passes, ih, perform_recorded]
      rfl

end AccordionRun

/-- One of the steps asks for the heights, and no step after it unmounts the accordion. -/
def MeasuredSince (steps : List AccordionStep) : Prop :=
  ∃ early step late, steps = early ++ step :: late ∧ step.measures = true ∧ .unmount ∉ late

theorem measuredSince_concat_iff (steps : List AccordionStep) (step : AccordionStep) :
    MeasuredSince (steps ++ [step]) ↔
      step.measures = true ∨ (step ≠ .unmount ∧ MeasuredSince steps) := by
  constructor
  · rintro ⟨early, asked, late, split, measures, mounted⟩
    rcases List.eq_nil_or_concat late with rfl | ⟨between, last, rfl⟩
    · obtain ⟨_, same⟩ := List.append_inj' split rfl
      cases same
      exact Or.inl measures
    · rw [List.concat_eq_append, ← List.cons_append, ← List.append_assoc] at split
      obtain ⟨before, same⟩ := List.append_inj' split rfl
      cases same
      rw [List.concat_eq_append, List.mem_append, List.mem_singleton, not_or] at mounted
      exact Or.inr ⟨Ne.symm mounted.2, early, asked, between, before, measures, mounted.1⟩
  · rintro (measures | ⟨stays, early, asked, late, rfl, measures, mounted⟩)
    · exact ⟨steps, step, [], rfl, measures, List.not_mem_nil⟩
    · refine ⟨early, asked, late ++ [step], ?_, measures, ?_⟩
      · rw [List.append_assoc, List.cons_append]
      · rw [List.mem_append, List.mem_singleton, not_or]
        exact ⟨mounted, Ne.symm stays⟩

/-- What holds of an accordion and of the answers of its measurer after some steps, of which
`passes` have asked for missing heights. -/
structure Kept (items : List FaqItem) (steps : List AccordionStep) (passes : Nat)
    (a : Accordion) (answers : List Answer) : Prop where
  sameItems : a.items = items
  openInside : ∀ index, a.openIndex = some index → 0 ≤ index ∧ index < items.length
  measured_iff : a.measured = true ↔ MeasuredSince steps
  unmeasured : a.measured = false → a.heights = []
  block : a.measured = true → a.heights.length = items.length ∧
    ∃ before, answers = before ++ items.zip a.heights
  count : answers.length = items.length * passes

namespace Kept

variable {items : List FaqItem} {steps : List AccordionStep} {passes : Nat}
  {m : ItemMeasurer σ ε} {run next : AccordionRun (σ × List Answer)}

theorem initial (items : List FaqItem) : Kept items [] 0 (.ofItems items) [] where
  sameItems := rfl
  openInside := nofun
  measured_iff := by
    constructor
    · intro impossible
      cases impossible
    · rintro ⟨early, step, late, split, _⟩
      exact absurd split (List.append_ne_nil_of_right_ne_nil early (List.cons_ne_nil step late)).symm
  unmeasured := fun _ => rfl
  block := nofun
  count := rfl

theorem step (kept : Kept items steps passes run.accordion run.measurer.2)
    {step : AccordionStep} {event : Option AccordionEvent}
    (effect : AccordionRun.Effect m.recorded run step event next) :
    Kept items (steps ++ [step])
      (passes + (step.measures && !run.accordion.measured).toNat)
      next.accordion next.measurer.2 := by
  cases effect with
  | idle _ stays late =>
      have noPass : (step.measures && !run.accordion.measured) = false := by
        cases asked : step.measures with
        | false => rfl
        | true => rw [late asked, Bool.not_true, Bool.and_false]
      rw [noPass]
      refine { kept with measured_iff := ?_ }
      rw [measuredSince_concat_iff, kept.measured_iff]
      constructor
      · intro since
        exact Or.inr ⟨stays, since⟩
      · rintro (asked | ⟨_, since⟩)
        · exact kept.measured_iff.mp (late asked)
        · exact since
  | opened index inside =>
      refine { kept with openInside := ?_, measured_iff := ?_ }
      · intro found isOpen
        have same := Accordion.toggled_eq_some isOpen
        subst same
        obtain ⟨least, greatest⟩ := (Accordion.inRange_iff _ _).mp inside
        rw [Accordion.size, kept.sameItems] at greatest
        exact ⟨least, greatest⟩
      · rw [measuredSince_concat_iff, kept.measured_iff]
        simp only [AccordionStep.measures, Bool.false_eq_true, ne_eq, reduceCtorEq,
          not_false_eq_true, true_and, false_or]
  | measured _ asked missing heights measurer found =>
      obtain ⟨sameLength, record⟩ := ItemMeasurer.recorded_of_measureAll found
      rw [kept.sameItems] at sameLength record
      have onePass : (step.measures && !run.accordion.measured) = true := by
        rw [asked, missing, Bool.not_false, Bool.and_true]
      rw [onePass]
      refine
        { sameItems := kept.sameItems, openInside := kept.openInside, measured_iff := ?_,
          unmeasured := nofun, block := fun _ => ⟨sameLength, run.measurer.2, record⟩,
          count := ?_ }
      · rw [measuredSince_concat_iff]
        exact iff_of_true rfl (Or.inl asked)
      · have full : (items.zip heights).length = items.length := by
          rw [List.length_zip, sameLength, Nat.min_self]
        rw [Bool.toNat_true, record, List.length_append, kept.count, full, Nat.mul_succ]
  | dropped =>
      refine
        { sameItems := kept.sameItems, openInside := nofun, measured_iff := ?_,
          unmeasured := fun _ => rfl, block := nofun, count := kept.count }
      rw [measuredSince_concat_iff]
      constructor
      · intro impossible
        cases impossible
      · rintro (impossible | ⟨mounted, _⟩)
        · cases impossible
        · exact absurd rfl mounted

theorem of_operations (total : m.Total) (items : List FaqItem) (s : σ)
    (operations : ∀ step ∈ steps, step.isOperation = true) :
    Kept items steps ((AccordionRun.new items (s, [])).passes m.recorded steps)
      ((AccordionRun.new items (s, [])).after m.recorded steps).accordion
      ((AccordionRun.new items (s, [])).after m.recorded steps).measurer.2 := by
  induction steps using List.reverseRecOn with
  | nil => exact initial items
  | append_singleton early last ih =>
      have kept := ih fun step member => operations step (List.mem_append_left [last] member)
      have operation := operations last (List.mem_append_right early List.mem_cons_self)
      obtain ⟨event, effect⟩ := AccordionRun.effect_of_perform total.recorded _ last operation
      rw [AccordionRun.passes_concat, AccordionRun.after_concat]
      exact kept.step effect

end Kept

/-! ### The view -/

/-- What the view of an accordion tells about the item at an index, and the accordion itself when
it is asked. -/
structure ItemShown (a : Accordion) (index : Nat) (item : FaqItem) (view : ItemView) : Prop where
  position : view.index = index
  question : view.question = item.question
  answer : view.answer = item.answer
  expanded : view.expanded = true ↔ a.openIndex = some (index : Int)
  icon : view.icon = if view.expanded then expandedIcon else collapsedIcon
  collapsed : view.expanded = false → view.height = some 0
  stored : view.expanded = true → a.measured = true →
    ∃ height, a.heights[index]? = some height ∧ view.height = some height
  unknown : view.height = none ↔ view.expanded = true ∧ a.measured = false
  isExpanded : a.isExpanded index = .ok view.expanded
  heightOf : a.heightOf index = .ok view.height

theorem itemShown_viewItem {a : Accordion} {index : Nat} {item : FaqItem}
    (present : a.items[index]? = some item) (unmeasured : a.measured = false → a.heights = [])
    (measured : a.measured = true → a.heights.length = a.items.length) :
    ItemShown a index item (a.viewItem item index) := by
  have inside := (List.getElem?_eq_some_iff.mp present).choose
  have inRange : a.inRange index = true :=
    (a.inRange_iff index).mpr ⟨Int.natCast_nonneg index, Int.ofNat_lt.mpr inside⟩
  have height : (a.viewItem item index).height = a.heightAt index := rfl
  have expanded : (a.viewItem item index).expanded = true ↔
      a.openIndex = some (index : Int) := decide_eq_true_iff
  have stored (isMeasured : a.measured = true) : ∃ found, a.heights[index]? = some found := by
    have bound : index < a.heights.length := by
      rw [measured isMeasured]
      exact inside
    exact ⟨a.heights[index], List.getElem?_eq_getElem bound⟩
  refine
    { position := rfl, question := rfl, answer := rfl, expanded, icon := ?_, collapsed := ?_,
      stored := ?_, unknown := ?_, isExpanded := ?_, heightOf := ?_ }
  · simp only [Accordion.viewItem, decide_eq_true_eq]
  · intro closed
    rw [height, Accordion.heightAt, if_neg]
    rw [← expanded, closed]
    exact Bool.false_ne_true
  · intro isOpen isMeasured
    obtain ⟨found, foundAt⟩ := stored isMeasured
    refine ⟨found, foundAt, ?_⟩
    rw [height, Accordion.heightAt, if_pos (expanded.mp isOpen), foundAt]
  · rw [height, Accordion.heightAt, expanded]
    by_cases isOpen : a.openIndex = some (index : Int)
    · rw [if_pos isOpen]
      cases isMeasured : a.measured with
      | true =>
          obtain ⟨found, foundAt⟩ := stored isMeasured
          simp only [foundAt, reduceCtorEq, Bool.true_eq_false, and_false]
      | false =>
          simp only [unmeasured isMeasured, List.getElem?_nil, isOpen, and_self]
    · rw [if_neg isOpen]
      simp only [reduceCtorEq, isOpen, false_and]
  · rw [Accordion.isExpanded, Accordion.require, if_pos inRange]
    rfl
  · rw [Accordion.heightOf, Accordion.require, if_pos inRange, height]
    rfl

structure Shown (a : Accordion) (view : AccordionView) : Prop where
  openIndex : view.openIndex = a.openIndex
  measured : view.measured = a.measured
  length : view.items.length = a.items.length
  item : ∀ (index : Nat) item, a.items[index]? = some item →
    ∃ shown, view.items[index]? = some shown ∧ ItemShown a index item shown

theorem Kept.shown {items : List FaqItem} {steps : List AccordionStep} {passes : Nat}
    {a : Accordion} {answers : List Answer} (kept : Kept items steps passes a answers) :
    Shown a a.render where
  openIndex := rfl
  measured := rfl
  length := List.length_mapIdx
  item := by
    intro index item present
    refine ⟨a.viewItem item index, ?_, ?_⟩
    · rw [Accordion.render, List.getElem?_mapIdx, present]
      rfl
    · apply itemShown_viewItem present kept.unmeasured
      intro measured
      rw [(kept.block measured).1, kept.sameItems]

/-! ### Given measurers -/

theorem TextMeasurer.standard_total : TextMeasurer.standard.itemMeasurer.Total := by
  have quotient : ∃ q, TextMeasurer.standard.quotient = .ok q := ⟨_, rfl⟩
  intro item s
  obtain ⟨q, found⟩ := quotient
  simp only [TextMeasurer.itemMeasurer, TextMeasurer.height, TextMeasurer.lineCount,
    TextMeasurer.column, found, Except.map]
  exact ⟨_, _, rfl⟩

namespace GivenMeasurer

variable {given : GivenMeasurer σ ε}

def recorded (given : GivenMeasurer σ ε) : GivenMeasurer (σ × List Answer) ε :=
  { given.toItemMeasurer.recorded with isFalsy := given.isFalsy }

theorem measure_used_of_falsy (given : GivenMeasurer σ ε) (falsy : given.isFalsy = true)
    (item : FaqItem) (s : σ) :
    given.used.measure item s = ((TextMeasurer.standard.height item).mapError .inr, s) :=
  if_pos falsy

theorem measure_used_of_truthy (given : GivenMeasurer σ ε) (truthy : given.isFalsy = false)
    (item : FaqItem) (s : σ) :
    given.used.measure item s =
      ((given.measure item s).1.mapError .inl, (given.measure item s).2) :=
  if_neg (Bool.eq_false_iff.mp truthy)

theorem used_total (total : given.Total) : given.used.Total := by
  intro item s
  cases falsy : given.isFalsy with
  | true =>
      obtain ⟨height, next, answered⟩ := TextMeasurer.standard_total item ()
      have found : TextMeasurer.standard.height item = .ok height := congrArg Prod.fst answered
      refine ⟨height, s, ?_⟩
      rw [given.measure_used_of_falsy falsy, found]
      rfl
  | false =>
      obtain ⟨height, next, answered⟩ := total item s
      refine ⟨height, next, ?_⟩
      rw [given.measure_used_of_truthy falsy, answered]
      rfl

theorem recorded_used (truthy : given.isFalsy = false) :
    given.recorded.used = given.used.recorded := by
  have same : given.recorded.used.measure = given.used.recorded.measure := by
    funext item s
    rw [given.recorded.measure_used_of_truthy truthy]
    simp only [ItemMeasurer.recorded, given.measure_used_of_truthy truthy, recorded]
    rcases given.measure item s.1 with ⟨answer, next⟩
    cases answer <;> rfl
  exact congrArg ItemMeasurer.mk same

theorem measureAll_used_of_falsy (given : GivenMeasurer σ ε) (falsy : given.isFalsy = true)
    (items : List FaqItem) (s : σ) :
    (given.used.measureAll items s).2 = s := by
  induction items with
  | nil => rfl
  | cons item rest ih =>
      rw [ItemMeasurer.measureAll, given.measure_used_of_falsy falsy]
      cases TextMeasurer.standard.height item with
      | error fault => rfl
      | ok height => exact ih

end GivenMeasurer

/-! ### The whole run -/

theorem AccordionRun.lifecycle {m : ItemMeasurer σ ε} (total : m.Total) (items : List FaqItem)
    (s : σ) {steps : List AccordionStep} (operations : ∀ step ∈ steps, step.isOperation = true) :
    let run := (AccordionRun.new items s).after m steps
    ∃ answers,
      (AccordionRun.new items (s, [])).after m.recorded steps =
        ⟨run.accordion, (run.measurer, answers)⟩ ∧
      Kept items steps ((AccordionRun.new items s).passes m steps) run.accordion answers := by
  intro run
  have same : ((AccordionRun.new items (s, [])).after m.recorded steps).unrecorded = run :=
    AccordionRun.after_recorded m (AccordionRun.new items (s, [])) steps
  have accordionAt := congrArg AccordionRun.accordion same
  have measurerAt := congrArg AccordionRun.measurer same
  simp only [AccordionRun.unrecorded] at accordionAt measurerAt
  have kept := Kept.of_operations total items s operations
  rw [AccordionRun.passes_recorded, accordionAt] at kept
  refine ⟨((AccordionRun.new items (s, [])).after m.recorded steps).measurer.2, ?_, kept⟩
  rw [← accordionAt, ← measurerAt]

/-- After every sequence of operations on a new accordion, whose measurer does not count as false
and never fails, the state is as the steps and the answers of the measurer say, and the view shows
it. A further step that fails leaves the state as it is, unless it fails while it logs a change that
it has made. -/
theorem accordion_lifecycle (items : List FaqItem) (given : GivenMeasurer σ ε)
    (truthy : given.isFalsy = false) (total : given.Total) (s : σ) (steps : List AccordionStep)
    (operations : ∀ step ∈ steps, step.isOperation = true) :
    let run := (AccordionRun.new items s).after given.used steps
    ∃ answers,
      (AccordionRun.new items (s, [])).after given.recorded.used steps =
        ⟨run.accordion, (run.measurer, answers)⟩ ∧
      Kept items steps ((AccordionRun.new items s).passes given.used steps) run.accordion
        answers ∧
      (∀ step fault, (run.perform given.used step).reply = .error fault →
        AccordionRun.Refused run (run.perform given.used step).next fault ∨
        AccordionRun.Unlogged given.used run step (run.perform given.used step).next fault) ∧
      Shown run.accordion run.accordion.render := by
  intro run
  have usedTotal := GivenMeasurer.used_total total
  obtain ⟨answers, record, kept⟩ := AccordionRun.lifecycle usedTotal items s operations
  rw [← GivenMeasurer.recorded_used truthy] at record
  refine ⟨answers, record, kept, ?_, kept.shown⟩
  intro step fault failed
  exact AccordionRun.failed_step usedTotal run step failed

theorem countingMeasurer_total {heights : List Int} (nonempty : heights ≠ []) :
    (countingMeasurer heights).Total := by
  intro item calls
  have bound : calls % heights.length < heights.length :=
    Nat.mod_lt calls (List.length_pos_iff.mpr nonempty)
  refine ⟨heights[calls % heights.length], calls + 1, ?_⟩
  simp only [countingMeasurer, List.getElem?_eq_getElem bound]

theorem accordion_lifecycle_remounted :
    let given : GivenMeasurer Nat CycleFault := { countingMeasurer [50, 76, 102] with }
    let steps := [.toggle 1, .mount, .toggle 9, .unmount, .toggle 2, .measure]
    let run := (AccordionRun.new Content.faqItems 0).after given.used steps
    given.isFalsy = false ∧ given.Total ∧
      (∀ step ∈ steps, AccordionStep.isOperation step = true) ∧
      (∃ answers, Kept Content.faqItems steps 2 run.accordion answers) ∧
      Shown run.accordion run.accordion.render := by
  intro given steps run
  have total : given.Total := countingMeasurer_total (List.cons_ne_nil 50 [76, 102])
  have operations : ∀ step ∈ steps, AccordionStep.isOperation step = true := by decide
  have passes : (AccordionRun.new Content.faqItems 0).passes given.used steps = 2 := by
    decide +kernel
  obtain ⟨answers, _, kept, _, shown⟩ :=
    accordion_lifecycle Content.faqItems given rfl total 0 steps operations
  rw [passes] at kept
  exact ⟨rfl, total, operations, ⟨answers, kept⟩, shown⟩

/-- A mount that cannot log the heights that it has measured fails and leaves them in place. And the
heights are not those of a measurer that counts as false: nobody has called it. -/
theorem failed_mount_stays_measured :
    let tall : GivenMeasurer Nat Empty :=
      { measure := fun _ calls => (.ok Json.firstLong, calls + 1) }
    let hollow : GivenMeasurer Nat Empty :=
      { measure := fun _ calls => (.ok 50, calls + 1), isFalsy := true }
    let start := AccordionRun.new Content.faqItems 0
    (tall.Total ∧ tall.isFalsy = false ∧
      (start.perform tall.used .mount).reply = .error (.unlogged .tooManyDigits) ∧
      (start.perform tall.used .mount).next ≠ start) ∧
    (hollow.Total ∧ (start.perform hollow.used .mount).next.accordion.measured = true ∧
      (start.perform hollow.used .mount).next.measurer = 0) := by
  intro tall hollow start
  have hollowTotal : hollow.Total := fun _ calls => ⟨50, calls + 1, rfl⟩
  refine ⟨⟨fun _ calls => ⟨_, calls + 1, rfl⟩, rfl, ?_⟩, hollowTotal, ?_⟩
  · have found : tall.used.measureAll Content.faqItems 0 =
        (.ok (List.replicate 4 (Json.firstLong : Int)), 4) := rfl
    have unwritable : (AccordionEvent.measured (List.replicate 4 (Json.firstLong : Int))).isWritable =
        false := by
      refine List.all_eq_false.mpr
        ⟨Json.firstLong, ?_, Bool.eq_false_iff.mp not_isWritable_firstLong⟩
      exact List.mem_cons_of_mem _ (List.mem_replicate.mpr ⟨by decide, rfl⟩)
    have mounted : start.perform tall.used .mount =
        { reply := .error (.unlogged .tooManyDigits), events := [],
          next := ⟨_, 4⟩ } :=
      AccordionRun.logged_of_unwritable unwritable _ _
    rw [mounted]
    refine ⟨rfl, fun same => ?_⟩
    exact absurd (congrArg AccordionRun.measurer same) (by decide)
  · have mounted : start.perform hollow.used .mount =
        AccordionRun.measureWith hollow.used start fun _ => .mounted := rfl
    rcases AccordionRun.measureWith_cases (GivenMeasurer.used_total hollowTotal) start
      (fun _ => .mounted) with ⟨measured, _⟩ | ⟨_, heights, calls, found, outcome⟩
    · cases measured
    · have uncalled := hollow.measureAll_used_of_falsy rfl Content.faqItems 0
      have same : calls = 0 := (congrArg Prod.snd found).symm.trans uncalled
      rw [mounted, outcome, AccordionRun.logged_next]
      exact ⟨rfl, same⟩

end SavingsSite
