import SavingsSite.Accordion.Run

set_option autoImplicit false

/-! What one operation does to an accordion and its measurer, and the states that a sequence of
operations leads through. -/

namespace SavingsSite

variable {σ ε : Type}

namespace AccordionStep

def measures : AccordionStep → Bool
  | mount | measure => true
  | _ => false

/-- Whether the step is an operation of the accordion; its open index may also be set past them. -/
def isOperation : AccordionStep → Bool
  | setOpen _ => false
  | _ => true

end AccordionStep

namespace ItemMeasurer

def Total (m : ItemMeasurer σ ε) : Prop :=
  ∀ item s, ∃ height next, m.measure item s = (.ok height, next)

theorem Total.measureAll {m : ItemMeasurer σ ε} (total : m.Total) (items : List FaqItem) (s : σ) :
    ∃ heights next, m.measureAll items s = (.ok heights, next) := by
  induction items generalizing s with
  | nil => exact ⟨[], s, rfl⟩
  | cons item rest ih =>
      obtain ⟨height, after, first⟩ := total item s
      obtain ⟨heights, next, later⟩ := ih after
      refine ⟨height :: heights, next, ?_⟩
      simp only [ItemMeasurer.measureAll, first, later]
      rfl

theorem of_mem_measureAll {m : ItemMeasurer σ ε} {items : List FaqItem} {s next : σ}
    {heights : List Int} (found : m.measureAll items s = (.ok heights, next)) :
    ∀ height ∈ heights, ∃ item ∈ items, ∃ t, (m.measure item t).1 = .ok height := by
  induction items generalizing s heights with
  | nil =>
      cases found
      exact List.forall_mem_nil _
  | cons item rest ih =>
      rcases first : m.measure item s with ⟨answer, after⟩
      rcases later : m.measureAll rest after with ⟨answers, last⟩
      cases answer with
      | error fault =>
          simp only [measureAll, first] at found
          cases found
      | ok own =>
          simp only [measureAll, first, later] at found
          cases answers with
          | error fault => cases found
          | ok more =>
              cases found
              intro height member
              rcases List.mem_cons.mp member with rfl | among
              · exact ⟨item, List.mem_cons_self, s, congrArg Prod.fst first⟩
              · obtain ⟨other, isItem, measured⟩ := ih later height among
                exact ⟨other, List.mem_cons_of_mem item isItem, measured⟩

end ItemMeasurer

theorem IndexFault.ofIndex_of_writable {index : Int} {count : Nat}
    (writable : isWritable index = true ∧ isWritable ((count : Int) - 1) = true) :
    ofIndex index count = .outOfRange ⟨index, count⟩ :=
  if_pos (Bool.and_eq_true_iff.mpr writable)

theorem IndexFault.ofIndex_of_unwritable {index : Int} {count : Nat}
    (unwritable : ¬ (isWritable index = true ∧ isWritable ((count : Int) - 1) = true)) :
    ofIndex index count = .unwritable .tooManyDigits :=
  if_neg (mt Bool.and_eq_true_iff.mp unwritable)

namespace Accordion

theorem inRange_iff (a : Accordion) (index : Int) :
    a.inRange index = true ↔ 0 ≤ index ∧ index < a.size := by
  rw [inRange, Bool.and_eq_true, decide_eq_true_eq, decide_eq_true_eq]

theorem toggle_eq_ok_iff (a : Accordion) (index : Int) (after : Accordion) :
    a.toggle index = .ok after ↔
      a.inRange index = true ∧ after = { a with openIndex := toggled a.openIndex index } := by
  unfold toggle require
  cases inside : a.inRange index with
  | true =>
      simp only [if_true, Except.map, Except.ok.injEq, true_and]
      exact eq_comm
  | false =>
      simp only [Bool.false_eq_true, if_false, Except.map, reduceCtorEq, false_and]

theorem toggle_eq_error_iff (a : Accordion) (index : Int) (fault : IndexFault) :
    a.toggle index = .error fault ↔
      a.inRange index = false ∧ fault = .ofIndex index a.size := by
  unfold toggle require
  cases inside : a.inRange index with
  | true => simp only [if_true, Except.map, reduceCtorEq, Bool.true_eq_false, false_and]
  | false =>
      simp only [Bool.false_eq_true, if_false, Except.map, Except.error.injEq, true_and]
      exact eq_comm

theorem toggled_eq_some {current : Option Int} {index found : Int}
    (opened : toggled current index = some found) : found = index := by
  unfold toggled at opened
  split at opened
  · cases opened
  · exact (Option.some.inj opened).symm

end Accordion

namespace AccordionRun

/-! ### Logged changes -/

theorem logged_next (next : AccordionRun σ) (event : AccordionEvent) (reply : AccordionReply) :
    (logged next event reply : AccordionOutcome σ ε).next = next := by
  unfold logged
  split <;> rfl

theorem logged_of_writable {event : AccordionEvent} (writable : event.isWritable = true)
    (next : AccordionRun σ) (reply : AccordionReply) :
    (logged next event reply : AccordionOutcome σ ε) =
      { reply := .ok reply, events := [event], next } :=
  if_pos writable

theorem logged_of_unwritable {event : AccordionEvent} (unwritable : event.isWritable = false)
    (next : AccordionRun σ) (reply : AccordionReply) :
    (logged next event reply : AccordionOutcome σ ε) =
      { reply := .error (.unlogged .tooManyDigits), events := [], next } :=
  if_neg (Bool.eq_false_iff.mp unwritable)

theorem logged_failed {next : AccordionRun σ} {event : AccordionEvent} {reply : AccordionReply}
    {fault : AccordionFault ε} (failed : (logged next event reply).reply = .error fault) :
    fault = .unlogged .tooManyDigits ∧ event.isWritable = false := by
  cases writable : event.isWritable with
  | true =>
      rw [logged_of_writable writable] at failed
      cases failed
  | false =>
      rw [logged_of_unwritable writable] at failed
      exact ⟨(Except.error.inj failed).symm, rfl⟩

/-! ### What a step does -/

/-- What an operation may do to a run, with the event that tells of it: nothing, move the open item,
measure, or drop all state. -/
inductive Effect (m : ItemMeasurer σ ε) (run : AccordionRun σ) :
    AccordionStep → Option AccordionEvent → AccordionRun σ → Prop where
  | idle (step : AccordionStep) (stays : step ≠ .unmount)
      (late : step.measures = true → run.accordion.measured = true) : Effect m run step none run
  | opened (index : Int) (inside : run.accordion.inRange index = true) :
      Effect m run (.toggle index)
        (some (.toggled index run.accordion.openIndex
          (Accordion.toggled run.accordion.openIndex index)))
        { run with accordion :=
            { run.accordion with openIndex := Accordion.toggled run.accordion.openIndex index } }
  | measured (step : AccordionStep) (asked : step.measures = true)
      (missing : run.accordion.measured = false) (heights : List Int) (measurer : σ)
      (found : m.measureAll run.accordion.items run.measurer = (.ok heights, measurer)) :
      Effect m run step (some (.measured heights))
        ⟨{ run.accordion with heights, measured := true }, measurer⟩
  | dropped : Effect m run .unmount none { run with accordion := run.accordion.unmount }

theorem measureWith_cases {m : ItemMeasurer σ ε} (total : m.Total) (run : AccordionRun σ)
    (reply : Accordion → AccordionReply) :
    (run.accordion.measured = true ∧
      measureWith m run reply = { reply := .ok (reply run.accordion), events := [], next := run }) ∨
    (run.accordion.measured = false ∧ ∃ heights measurer,
      m.measureAll run.accordion.items run.measurer = (.ok heights, measurer) ∧
      measureWith m run reply =
        logged ⟨{ run.accordion with heights, measured := true }, measurer⟩ (.measured heights)
          (reply { run.accordion with heights, measured := true })) := by
  unfold measureWith
  cases measured : run.accordion.measured with
  | true => exact Or.inl ⟨rfl, if_pos rfl⟩
  | false =>
      obtain ⟨heights, measurer, found⟩ := total.measureAll run.accordion.items run.measurer
      refine Or.inr ⟨rfl, heights, measurer, found, ?_⟩
      simp only [Bool.false_eq_true, if_false, found]

theorem effect_of_measureWith {m : ItemMeasurer σ ε} (total : m.Total) (run : AccordionRun σ)
    (reply : Accordion → AccordionReply) (step : AccordionStep) (asked : step.measures = true) :
    ∃ event, Effect m run step event (measureWith m run reply).next := by
  have stays : step ≠ .unmount := by
    intro same
    subst same
    cases asked
  rcases measureWith_cases total run reply with ⟨measured, found⟩ |
    ⟨missing, heights, measurer, found, outcome⟩
  · rw [found]
    exact ⟨none, .idle step stays fun _ => measured⟩
  · rw [outcome, logged_next]
    exact ⟨_, .measured step asked missing heights measurer found⟩

theorem effect_of_perform {m : ItemMeasurer σ ε} (total : m.Total) (run : AccordionRun σ)
    (step : AccordionStep) (operation : step.isOperation = true) :
    ∃ event, Effect m run step event (run.perform m step).next := by
  have idle (asks : AccordionStep) (stays : asks ≠ .unmount) (quiet : asks.measures = false) :
      ∃ event, Effect m run asks event run := by
    refine ⟨none, .idle asks stays ?_⟩
    intro asked
    rw [quiet] at asked
    cases asked
  cases step with
  | toggle index =>
      simp only [perform]
      cases moved : run.accordion.toggle index with
      | error fault => exact idle (.toggle index) nofun rfl
      | ok after =>
          obtain ⟨inside, rfl⟩ := (Accordion.toggle_eq_ok_iff _ _ _).mp moved
          simp only [logged_next]
          exact ⟨_, .opened index inside⟩
  | isExpanded index => exact idle (.isExpanded index) nofun rfl
  | heightOf index => exact idle (.heightOf index) nofun rfl
  | mount => exact effect_of_measureWith total run (fun _ => .mounted) .mount rfl
  | measure =>
      exact effect_of_measureWith total run (fun measured => .heights measured.heights) .measure rfl
  | unmount => exact ⟨none, .dropped⟩
  | render => exact idle .render nofun rfl
  | length => exact idle .length nofun rfl
  | setOpen index => cases operation

/-! ### How a step fails -/

/-- A step that is refused its index leaves the run as it was. -/
def Refused (run next : AccordionRun σ) (fault : AccordionFault ε) : Prop :=
  next = run ∧ ∃ index, run.accordion.inRange index = false ∧
    fault = .index (.ofIndex index run.accordion.size)

def Unlogged (m : ItemMeasurer σ ε) (run : AccordionRun σ) (step : AccordionStep)
    (next : AccordionRun σ) (fault : AccordionFault ε) : Prop :=
  fault = .unlogged .tooManyDigits ∧
    ∃ event, event.isWritable = false ∧ Effect m run step (some event) next

theorem refused_of_query {run : AccordionRun σ} {index : Int} {α : Type}
    (ask : Accordion → α) (tell : α → AccordionReply) {fault : AccordionFault ε}
    (failed : (run.query (((run.accordion.require index).map fun _ => ask run.accordion).map
      tell)).reply = .error fault) :
    Refused run run fault := by
  unfold Accordion.require query at failed
  cases inside : run.accordion.inRange index with
  | true =>
      rw [if_pos inside] at failed
      cases failed
  | false =>
      rw [if_neg (Bool.eq_false_iff.mp inside)] at failed
      cases failed
      exact ⟨rfl, index, inside, rfl⟩

theorem unlogged_of_measureWith {m : ItemMeasurer σ ε} (total : m.Total) (run : AccordionRun σ)
    (reply : Accordion → AccordionReply) (step : AccordionStep) (asked : step.measures = true)
    {fault : AccordionFault ε} (failed : (measureWith m run reply).reply = .error fault) :
    Unlogged m run step (measureWith m run reply).next fault := by
  rcases measureWith_cases total run reply with ⟨measured, found⟩ |
    ⟨missing, heights, measurer, found, outcome⟩
  · rw [found] at failed
    cases failed
  · rw [outcome] at failed ⊢
    obtain ⟨unlogged, unwritable⟩ := logged_failed failed
    rw [logged_next]
    exact ⟨unlogged, _, unwritable, .measured step asked missing heights measurer found⟩

/-- An operation fails for an index out of range, and then it leaves the run as it was, or because
it has done what it cannot log. -/
theorem failed_step {m : ItemMeasurer σ ε} (total : m.Total) (run : AccordionRun σ)
    (step : AccordionStep) {fault : AccordionFault ε}
    (failed : (run.perform m step).reply = .error fault) :
    Refused run (run.perform m step).next fault ∨
      Unlogged m run step (run.perform m step).next fault := by
  cases step with
  | toggle index =>
      simp only [perform] at failed ⊢
      cases moved : run.accordion.toggle index with
      | error found =>
          rw [moved] at failed
          cases failed
          obtain ⟨outside, rfl⟩ := (Accordion.toggle_eq_error_iff _ _ _).mp moved
          exact Or.inl ⟨rfl, index, outside, rfl⟩
      | ok after =>
          rw [moved] at failed
          obtain ⟨inside, rfl⟩ := (Accordion.toggle_eq_ok_iff _ _ _).mp moved
          obtain ⟨unlogged, unwritable⟩ := logged_failed failed
          simp only [logged_next]
          exact Or.inr ⟨unlogged, _, unwritable, .opened index inside⟩
  | isExpanded index =>
      exact Or.inl (refused_of_query (fun a => decide (a.openIndex = some index)) .expanded failed)
  | heightOf index =>
      exact Or.inl (refused_of_query (fun a => a.heightAt index.toNat) .height failed)
  | mount =>
      exact Or.inr (unlogged_of_measureWith total run (fun _ => .mounted) .mount rfl failed)
  | measure =>
      exact Or.inr (unlogged_of_measureWith total run (fun measured => .heights measured.heights)
        .measure rfl failed)
  | unmount => cases failed
  | render => cases failed
  | length => cases failed
  | setOpen index => cases failed

/-! ### Sequences of steps -/

def new (items : List FaqItem) (s : σ) : AccordionRun σ := ⟨.ofItems items, s⟩

def after (m : ItemMeasurer σ ε) (run : AccordionRun σ) : List AccordionStep → AccordionRun σ
  | [] => run
  | step :: rest => (run.perform m step).next.after m rest

theorem after_concat (m : ItemMeasurer σ ε) (run : AccordionRun σ) (steps : List AccordionStep)
    (step : AccordionStep) :
    run.after m (steps ++ [step]) = ((run.after m steps).perform m step).next := by
  induction steps generalizing run with
  | nil => rfl
  | cons first rest ih => exact ih (run.perform m first).next

end AccordionRun

end SavingsSite
