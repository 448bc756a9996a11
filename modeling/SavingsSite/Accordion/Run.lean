import SavingsSite.Accordion.View
import SavingsSite.Layout.Measurer

set_option autoImplicit false

/-! Sequences of operations on one accordion and its measurer. An operation that changes the
accordion logs the change afterwards; it fails when the line cannot be written, and the change
stays. -/

namespace SavingsSite

inductive AccordionStep where
  | toggle (index : Int)
  | isExpanded (index : Int)
  | heightOf (index : Int)
  | mount
  | measure
  | unmount
  | render
  | length
  | setOpen (index : Option Int)
  deriving DecidableEq, Repr

inductive AccordionReply where
  | done
  | mounted
  | position (index : Option Int)
  | expanded (answer : Bool)
  | height (pixels : Option Int)
  | heights (pixels : List Int)
  | view (view : AccordionView)
  | count (items : Nat)
  deriving DecidableEq, Repr

/-- An operation is refused its index, the measurer fails, or the change is made and cannot be
logged. -/
inductive AccordionFault (ε : Type) where
  | index (fault : IndexFault)
  | measurer (fault : ε)
  | unlogged (fault : LengthFault)
  deriving DecidableEq, Repr

def AccordionFault.message {ε : Type} (tell : ε → String) : AccordionFault ε → String
  | index fault => fault.message
  | measurer fault => tell fault
  | unlogged fault => fault.message

structure AccordionRun (σ : Type) where
  accordion : Accordion
  measurer : σ

structure AccordionOutcome (σ ε : Type) where
  reply : Except (AccordionFault ε) AccordionReply
  events : List AccordionEvent
  next : AccordionRun σ

namespace AccordionRun

variable {σ ε : Type}

def query (run : AccordionRun σ) (answer : Except IndexFault AccordionReply) :
    AccordionOutcome σ ε :=
  { reply := answer.mapError .index, events := [], next := run }

def logged (next : AccordionRun σ) (event : AccordionEvent) (reply : AccordionReply) :
    AccordionOutcome σ ε :=
  if event.isWritable then { reply := .ok reply, events := [event], next }
  else { reply := .error (.unlogged .tooManyDigits), events := [], next }

/-- The heights are measured unless they already are. The operation answers with `reply` of the
measured accordion. -/
def measureWith (m : ItemMeasurer σ ε) (run : AccordionRun σ)
    (reply : Accordion → AccordionReply) : AccordionOutcome σ ε :=
  if run.accordion.measured then
    { reply := .ok (reply run.accordion), events := [], next := run }
  else
    match m.measureAll run.accordion.items run.measurer with
    | (.error fault, measurer) =>
        { reply := .error (.measurer fault), events := [], next := { run with measurer } }
    | (.ok heights, measurer) =>
        let accordion := { run.accordion with heights, measured := true }
        logged ⟨accordion, measurer⟩ (.measured heights) (reply accordion)

def perform (m : ItemMeasurer σ ε) (run : AccordionRun σ) : AccordionStep → AccordionOutcome σ ε
  | .toggle index =>
      match run.accordion.toggle index with
      | .error fault => run.query (.error fault)
      | .ok after =>
          logged { run with accordion := after }
            (.toggled index run.accordion.openIndex after.openIndex) (.position after.openIndex)
  | .isExpanded index => run.query ((run.accordion.isExpanded index).map .expanded)
  | .heightOf index => run.query ((run.accordion.heightOf index).map .height)
  | .mount => measureWith m run fun _ => .mounted
  | .measure => measureWith m run fun accordion => .heights accordion.heights
  | .unmount =>
      { reply := .ok .done, events := [], next := { run with accordion := run.accordion.unmount } }
  | .render => run.query (.ok (.view run.accordion.render))
  | .length => run.query (.ok (.count run.accordion.size))
  | .setOpen index =>
      { reply := .ok .done, events := []
        next := { run with accordion := { run.accordion with openIndex := index } } }

def performAll (m : ItemMeasurer σ ε) (run : AccordionRun σ) :
    List AccordionStep → List (AccordionOutcome σ ε)
  | [] => []
  | step :: rest =>
      let outcome := run.perform m step
      outcome :: outcome.next.performAll m rest

end AccordionRun

def TextMeasurer.itemMeasurer (m : TextMeasurer) : ItemMeasurer Unit QuotientFault where
  measure item _ := (m.height item, ())

/-- A measurer as an accordion is given one. Like any object it may count as false. -/
structure GivenMeasurer (σ ε : Type) extends ItemMeasurer σ ε where
  isFalsy : Bool := false

/-- The measurer that an accordion uses: the one that it is given, or the standard one in the place
of one that counts as false. -/
def GivenMeasurer.used {σ ε : Type} (given : GivenMeasurer σ ε) :
    ItemMeasurer σ (ε ⊕ QuotientFault) where
  measure item s :=
    if given.isFalsy then ((TextMeasurer.standard.height item).mapError .inr, s)
    else
      let (height, s) := given.measure item s
      (height.mapError .inl, s)

inductive CycleFault where
  | noHeights
  deriving DecidableEq, Repr

def CycleFault.message : CycleFault → String
  | noHeights => "integer modulo by zero"

/-- A measurer that counts its calls and answers the heights of a list in turn. -/
def countingMeasurer (heights : List Int) : ItemMeasurer Nat CycleFault where
  measure _ calls :=
    match heights[calls % heights.length]? with
    | some height => (.ok height, calls + 1)
    | none => (.error .noHeights, calls + 1)

end SavingsSite
