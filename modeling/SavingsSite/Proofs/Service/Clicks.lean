import SavingsSite.Proofs.Accordion.Lifecycle
import SavingsSite.Proofs.Layout.Heights
import SavingsSite.Proofs.Service.Reports

set_option autoImplicit false

/-! The accordion of the site. A request builds one, measures it and clicks on it; the result is the
accordion that has been mounted once and clicked on since. -/

namespace SavingsSite.Service

open Content (faqItems)

/-! ### The heights -/

abbrev siteMeasurer : ItemMeasurer Unit QuotientFault := TextMeasurer.standard.itemMeasurer

def siteHeights : List Int := (siteMeasurer.measureAll faqItems ()).1.toOption.getD []

theorem measureAll_site : siteMeasurer.measureAll faqItems () = (.ok siteHeights, ()) := by
  obtain ⟨heights, next, found⟩ := TextMeasurer.standard_total.measureAll faqItems ()
  rw [siteHeights, found]
  rfl

theorem length_siteHeights : siteHeights.length = itemCount := by
  obtain ⟨heights, _, found⟩ :=
    TextMeasurer.standard_total.recorded.measureAll faqItems ((), ([] : List Answer))
  have sameHeights := (siteMeasurer.measureAll_recorded faqItems ((), [])).1
  rw [found, measureAll_site] at sameHeights
  cases sameHeights
  exact (ItemMeasurer.recorded_of_measureAll found).1

theorem length_toList_le (text : String) : text.toList.length ≤ text.utf8ByteSize := by
  have sized (chars : List Char) : chars.length ≤ (String.ofList chars).utf8ByteSize := by
    induction chars with
    | nil => exact Nat.zero_le _
    | cons c rest ih =>
        have first : (String.ofList [c]).utf8ByteSize = c.utf8Size := by simp
        have positive := c.utf8Size_pos
        rw [← List.singleton_append, String.ofList_append, String.utf8ByteSize_append, first,
          List.length_append, List.length_singleton]
        omega
  have whole := sized text.toList
  rwa [String.ofList_toList] at whole

theorem siteHeights_small : ∀ height ∈ siteHeights, height.natAbs < 10000000000000000000 := by
  intro height member
  obtain ⟨item, isItem, _, measured⟩ := ItemMeasurer.of_mem_measureAll measureAll_site height member
  obtain ⟨column, fits⟩ : ∃ column, TextMeasurer.standard.column = .ok column := ⟨_, rfl⟩
  have short : ∀ item ∈ faqItems, item.answer.utf8ByteSize ≤ 1000 := by decide +kernel
  have expanded := Text.length_expandTabs_le 0 item.answer.toList
  have bytes := length_toList_le item.answer
  have pairs := TextMeasurer.linesIn_pairs_le column item.answer
  have lines : TextMeasurer.linesIn column item.answer / 2 ≤ 8000 := by
    have few : TextMeasurer.linesIn column item.answer / 2 ≤
        TextMeasurer.linesIn column item.answer / 2 * (column.width + 1) :=
      Nat.le_mul_of_pos_right _ (Nat.succ_pos column.width)
    have size := short item isItem
    omega
  have found := (TextMeasurer.height_of_column fits item).symm.trans measured
  have own : (TextMeasurer.linesIn column item.answer : Int) * 26 + 24 = height :=
    Except.ok.inj found
  omega

/-! ### Steps -/

def siteAccordion (openIndex : Option Int) : Accordion :=
  { items := faqItems, openIndex, heights := siteHeights, measured := true }

def siteRun (openIndex : Option Int) : AccordionRun Unit := ⟨siteAccordion openIndex, ()⟩

/-- An open index of the site: none, or one of its items. -/
def IsOpen (openIndex : Option Int) : Prop :=
  ∀ index, openIndex = some index → 0 ≤ index ∧ index < itemCount

theorem isWritable_of_inside {index : Int} (inside : 0 ≤ index ∧ index < itemCount) :
    isWritable index = true := by
  have few : itemCount ≤ 10 := by decide
  exact isWritable_of_lt (by omega)

theorem IsOpen.toggled {openIndex : Option Int} {index : Int}
    (inside : 0 ≤ index ∧ index < itemCount) : IsOpen (Accordion.toggled openIndex index) := by
  intro found isOpen
  rw [Accordion.toggled_eq_some isOpen]
  exact inside

theorem perform_mount_new :
    (AccordionRun.new faqItems ()).perform siteMeasurer .mount =
      { reply := .ok .mounted, events := [.measured siteHeights], next := siteRun none } := by
  have writable : (AccordionEvent.measured siteHeights).isWritable = true := by
    rw [AccordionEvent.isWritable, AccordionEvent.numbers, List.all_cons, Bool.and_eq_true,
      List.all_eq_true, length_siteHeights]
    refine ⟨isWritable_of_lt (by decide), ?_⟩
    intro height member
    exact isWritable_of_lt (siteHeights_small height member)
  have mounted : (AccordionRun.new faqItems ()).perform siteMeasurer .mount =
      AccordionRun.measureWith siteMeasurer (.new faqItems ()) fun _ => .mounted := rfl
  have missing : ¬ (AccordionRun.new faqItems ()).accordion.measured = true := Bool.false_ne_true
  have found : siteMeasurer.measureAll (AccordionRun.new faqItems ()).accordion.items
      (AccordionRun.new faqItems ()).measurer = (.ok siteHeights, ()) := measureAll_site
  rw [mounted, AccordionRun.measureWith, if_neg missing, found]
  exact AccordionRun.logged_of_writable writable _ _

theorem inRange_site (openIndex : Option Int) (index : Int) :
    (siteAccordion openIndex).inRange index = true ↔ 0 ≤ index ∧ index < itemCount :=
  Accordion.inRange_iff (siteAccordion openIndex) index

theorem perform_toggle_inside {openIndex : Option Int} (isOpen : IsOpen openIndex) {index : Int}
    (inside : 0 ≤ index ∧ index < itemCount) :
    (siteRun openIndex).perform siteMeasurer (.toggle index) =
      { reply := .ok (.position (Accordion.toggled openIndex index))
        events := [.toggled index openIndex (Accordion.toggled openIndex index)]
        next := siteRun (Accordion.toggled openIndex index) } := by
  have moved : (siteAccordion openIndex).toggle index =
      .ok (siteAccordion (Accordion.toggled openIndex index)) :=
    (Accordion.toggle_eq_ok_iff _ _ _).mpr ⟨(inRange_site openIndex index).mpr inside, rfl⟩
  have writable : (AccordionEvent.toggled index openIndex
      (Accordion.toggled openIndex index)).isWritable = true := by
    rw [AccordionEvent.isWritable, AccordionEvent.numbers, List.all_cons, Bool.and_eq_true,
      List.all_eq_true]
    refine ⟨isWritable_of_inside inside, List.forall_mem_append.mpr ⟨?_, ?_⟩⟩
    · intro before member
      exact isWritable_of_inside (isOpen before (Option.mem_toList.mp member))
    · intro after member
      exact isWritable_of_inside (IsOpen.toggled inside after (Option.mem_toList.mp member))
  simp only [AccordionRun.perform, siteRun, moved]
  exact AccordionRun.logged_of_writable writable _ _

theorem perform_toggle_past {openIndex : Option Int} {index : Int}
    (outside : ¬ (0 ≤ index ∧ index < itemCount)) (writable : isWritable index = true) :
    (siteRun openIndex).perform siteMeasurer (.toggle index) =
      { reply := .error (.index (.outOfRange ⟨index, itemCount⟩)), events := [],
        next := siteRun openIndex } := by
  have last : isWritable ((itemCount : Int) - 1) = true := isWritable_of_lt (by decide)
  have refused : (siteAccordion openIndex).toggle index =
      .error (.outOfRange ⟨index, itemCount⟩) := by
    rw [Accordion.toggle_eq_error_iff]
    refine ⟨?_, (IndexFault.ofIndex_of_writable ⟨writable, last⟩).symm⟩
    rw [Bool.eq_false_iff, ne_eq, inRange_site]
    exact outside
  simp only [AccordionRun.perform, siteRun, refused]
  rfl

/-! ### The clicks of a request -/

theorem runSteps_cons {run next : AccordionRun Unit} {step : AccordionStep} {reply : AccordionReply}
    {events : List AccordionEvent}
    (performed : run.perform siteMeasurer step = { reply := .ok reply, events, next })
    (rest : List AccordionStep) :
    runSteps run (step :: rest) =
      ((runSteps next rest).1, events ++ (runSteps next rest).2) := by
  rw [runSteps, performed]

theorem runSteps_toggles {openIndex : Option Int} (isOpen : IsOpen openIndex) {indices : List Int}
    (inside : ∀ index ∈ indices, 0 ≤ index ∧ index < itemCount) :
    ∃ events, runSteps (siteRun openIndex) (indices.map .toggle) =
      (.ok (siteRun (indices.foldl Accordion.toggled openIndex)), events) := by
  induction indices generalizing openIndex with
  | nil => exact ⟨[], rfl⟩
  | cons index rest ih =>
      rw [List.forall_mem_cons] at inside
      have next : IsOpen (Accordion.toggled openIndex index) := IsOpen.toggled inside.1
      obtain ⟨events, later⟩ := ih next inside.2
      refine ⟨.toggled index openIndex (Accordion.toggled openIndex index) :: events, ?_⟩
      rw [List.map_cons, runSteps_cons (perform_toggle_inside isOpen inside.1), later]
      rfl

theorem clicked_inside {indices : List Int}
    (inside : ∀ index ∈ indices, 0 ≤ index ∧ index < itemCount) :
    ∃ events, clicked indices =
      (.ok (siteRun (indices.foldl Accordion.toggled none)), events) := by
  have noneOpen : IsOpen none := nofun
  obtain ⟨events, later⟩ := runSteps_toggles noneOpen inside
  have start : (⟨.ofItems faqItems, ()⟩ : AccordionRun Unit) = .new faqItems () := rfl
  refine ⟨.measured siteHeights :: events, ?_⟩
  rw [clicked, start, runSteps_cons perform_mount_new, later]
  rfl

theorem foldl_toggled_toList (openIndex : Option Int) :
    openIndex.toList.foldl Accordion.toggled none = openIndex := by
  cases openIndex <;> rfl

theorem IsOpen.forall_mem {openIndex : Option Int} (isOpen : IsOpen openIndex) :
    ∀ index ∈ openIndex.toList, 0 ≤ index ∧ index < itemCount := by
  intro index member
  exact isOpen index (Option.mem_toList.mp member)

/-! ### The answers of the accordion -/

theorem viewItem_isSound {view : ItemView} (index : isWritable view.index = true)
    (height : ∀ pixels, view.height = some pixels → isWritable pixels = true) :
    view.toJson.isSound = true := by
  have position : (Json.ofNat view.index).isSound = true := index
  have pixels : (Json.ofOption Json.whole view.height).isSound = true := by
    cases found : view.height with
    | none => rfl
    | some pixels => exact height pixels found
  simp only [ItemView.toJson, Json.ofFields, List.map_cons, List.map_nil, Json.isSound,
    Json.fieldsSound, JsonString.sound?, Option.isSome_some, Json.ofString, position, pixels,
    Bool.and_self]

theorem view_isSound {openIndex : Option Int} (isOpen : IsOpen openIndex) :
    (siteAccordion openIndex).render.toJson.isSound = true := by
  have items : Json.itemsSound
      ((siteAccordion openIndex).render.items.map ItemView.toJson) = true := by
    apply Json.itemsSound_map
    intro view member
    obtain ⟨index, bound, rfl⟩ := List.mem_mapIdx.mp member
    apply viewItem_isSound
    · exact isWritable_of_inside ⟨Int.natCast_nonneg index, Int.ofNat_lt.mpr bound⟩
    · intro pixels shown
      change (siteAccordion openIndex).heightAt index = some pixels at shown
      rw [Accordion.heightAt] at shown
      split at shown
      · exact isWritable_of_lt (siteHeights_small pixels (List.mem_of_getElem? shown))
      · cases shown
        exact isWritable_of_lt (by decide)
  have position : (Json.ofOption Json.whole openIndex).isSound = true := by
    cases openIndex with
    | none => rfl
    | some index => exact isWritable_of_inside (isOpen index rfl)
  have shownIndex : (siteAccordion openIndex).render.openIndex = openIndex := rfl
  simp only [AccordionView.toJson, Json.ofFields, List.map_cons, List.map_nil, Json.isSound,
    Json.fieldsSound, JsonString.sound?, Option.isSome_some, shownIndex, position, items,
    Bool.and_self]

theorem indexFault?_open {openIndex : Option Int} (isOpen : IsOpen openIndex) :
    openIndex.bind indexFault? = none := by
  cases openIndex with
  | none => rfl
  | some index =>
      have bound : ¬ (itemCount : Int) ≤ index := Int.not_le.mpr (isOpen index rfl).2
      rw [Option.bind_some, indexFault?, if_neg bound]

theorem indexFault?_past {index : Int} (past : (itemCount : Int) ≤ index)
    (writable : isWritable index = true) :
    indexFault? index = some (.site (.itemNotFound index itemCount)) := by
  have last : isWritable ((itemCount : Int) - 1) = true := isWritable_of_lt (by decide)
  have fault : SiteFault.ofIndex index itemCount = .ok (.itemNotFound index itemCount) :=
    if_pos (Bool.and_eq_true_iff.mpr ⟨writable, last⟩)
  rw [indexFault?, if_pos past, fault]

def shownOutcome (openIndex : Option Int) : Outcome :=
  .answer (.json (siteAccordion openIndex).render.toJson)

theorem outcome_shownAfter_siteRun (last : Accordion → List LogRecord) (openIndex : Option Int)
    (events : List AccordionEvent) :
    (shownAfter last (.ok (siteRun openIndex), events)).outcome = shownOutcome openIndex := by
  rw [shownAfter, shownOutcome, siteRun]

theorem showClicked_inside {indices : List Int}
    (inside : ∀ index ∈ indices, 0 ≤ index ∧ index < itemCount)
    (last : Accordion → List LogRecord) :
    (showClicked indices last).outcome =
      shownOutcome (indices.foldl Accordion.toggled none) := by
  obtain ⟨events, found⟩ := clicked_inside inside
  rw [showClicked, found, outcome_shownAfter_siteRun]

theorem showAccordion_open {openIndex : Option Int} (isOpen : IsOpen openIndex) :
    (showAccordion openIndex).outcome = shownOutcome openIndex := by
  simp only [showAccordion, indexFault?_open isOpen]
  rw [showClicked_inside isOpen.forall_mem, foldl_toggled_toList]

theorem toggleItem_inside {openIndex : Option Int} (isOpen : IsOpen openIndex) {index : Int}
    (inside : 0 ≤ index ∧ index < itemCount) :
    (toggleItem openIndex index).outcome = shownOutcome (Accordion.toggled openIndex index) := by
  have noFault : indexFault? index = none := by
    rw [indexFault?, if_neg (Int.not_le.mpr inside.2)]
  have both : ∀ click ∈ openIndex.toList ++ [index], 0 ≤ click ∧ click < itemCount :=
    List.forall_mem_append.mpr ⟨isOpen.forall_mem, List.forall_mem_singleton.mpr inside⟩
  simp only [toggleItem, indexFault?_open isOpen, noFault, Option.or_none]
  rw [showClicked_inside both, List.foldl_append, foldl_toggled_toList]
  rfl

theorem toggleItem_past {openIndex : Option Int} (isOpen : IsOpen openIndex) {index : Int}
    (past : (itemCount : Int) ≤ index) (writable : isWritable index = true) :
    (toggleItem openIndex index).outcome = .failed (.site (.itemNotFound index itemCount)) := by
  simp only [toggleItem, indexFault?_open isOpen, indexFault?_past past writable, Option.none_or]
  rfl

end SavingsSite.Service
