import SavingsSite.Content.Faq
import SavingsSite.Json.Basic
import SavingsSite.Text.Quoted

set_option autoImplicit false

/-! An accordion over a fixed list of items, of which at most one is open. The heights of the
answers are measured once after mounting; a closed item has height zero. -/

namespace SavingsSite

/-- Measures items with a state of its own that every measurement may change, a failed one too. -/
structure ItemMeasurer (σ ε : Type) where
  measure : FaqItem → σ → Except ε Int × σ

def ItemMeasurer.measureAll {σ ε : Type} (m : ItemMeasurer σ ε) :
    List FaqItem → σ → Except ε (List Int) × σ
  | [], s => (.ok [], s)
  | item :: rest, s =>
      match m.measure item s with
      | (.error e, s) => (.error e, s)
      | (.ok height, s) =>
          let (heights, s) := m.measureAll rest s
          (heights.map (height :: ·), s)

structure Accordion where
  items : List FaqItem
  openIndex : Option Int := none
  heights : List Int := []
  measured : Bool := false
  deriving DecidableEq, Repr

/-- An index that no item has, with the number of items. -/
structure OutOfRange where
  index : Int
  count : Nat
  deriving DecidableEq, Repr

def OutOfRange.message (e : OutOfRange) : String :=
  "FAQ index " ++ toString e.index ++ " out of range (0.." ++ toString ((e.count : Int) - 1) ++ ")"

inductive IndexFault where
  | outOfRange (fault : OutOfRange)
  | unwritable (fault : LengthFault)
  deriving DecidableEq, Repr

def IndexFault.message : IndexFault → String
  | outOfRange fault => fault.message
  | unwritable fault => fault.message

/-- The fault of an index that none of `count` items has. Its message names the index and the last
one there is, which it can unless one of them has too many digits. -/
def IndexFault.ofIndex (index : Int) (count : Nat) : IndexFault :=
  if isWritable index && isWritable ((count : Int) - 1) then .outOfRange ⟨index, count⟩
  else .unwritable .tooManyDigits

inductive AccordionEvent where
  | measured (heights : List Int)
  | toggled (index : Int) (before after : Option Int)
  deriving DecidableEq, Repr

def indexText : Option Int → String
  | none => "None"
  | some index => toString index

def AccordionEvent.message : AccordionEvent → String
  | measured heights =>
      "Measured " ++ toString heights.length ++ " FAQ answers: " ++
        Text.bracketed (heights.map toString)
  | toggled index before after =>
      "FAQ toggle(" ++ toString index ++ "): " ++ indexText before ++ " -> " ++ indexText after

def AccordionEvent.numbers : AccordionEvent → List Int
  | measured heights => (heights.length : Int) :: heights
  | toggled index before after => index :: (before.toList ++ after.toList)

def AccordionEvent.isWritable (event : AccordionEvent) : Bool :=
  event.numbers.all SavingsSite.isWritable

namespace Accordion

def ofItems (items : List FaqItem) : Accordion := { items }

def size (a : Accordion) : Nat := a.items.length

def inRange (a : Accordion) (index : Int) : Bool := 0 ≤ index && index < a.size

def require (a : Accordion) (index : Int) : Except IndexFault Unit :=
  if a.inRange index then .ok () else .error (.ofIndex index a.size)

def toggled (current : Option Int) (index : Int) : Option Int :=
  if current = some index then none else some index

/-- A click on an item opens it and closes the one that was open, or closes it when it was. -/
def toggle (a : Accordion) (index : Int) : Except IndexFault Accordion :=
  (a.require index).map fun _ => { a with openIndex := toggled a.openIndex index }

def unmount (a : Accordion) : Accordion := ofItems a.items

def isExpanded (a : Accordion) (index : Int) : Except IndexFault Bool :=
  (a.require index).map fun _ => a.openIndex = some index

/-- The height of an item that is in range; unknown when it was opened before the measurement. -/
def heightAt (a : Accordion) (index : Nat) : Option Int :=
  if a.openIndex = some (index : Int) then a.heights[index]? else some 0

def heightOf (a : Accordion) (index : Int) : Except IndexFault (Option Int) :=
  (a.require index).map fun _ => a.heightAt index.toNat

end Accordion

end SavingsSite
