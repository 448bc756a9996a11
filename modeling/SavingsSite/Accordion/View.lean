import SavingsSite.Accordion.Basic

set_option autoImplicit false

/-! What a page needs to show an accordion: every item with its state, its height and the ids
that tie its control to its answer. -/

namespace SavingsSite

def answerId (index : Int) : String := "faq-answer-" ++ toString index

def controlId (index : Int) : String := "faq-question-" ++ toString index

def expandedIcon : String := "×"

def collapsedIcon : String := "+"

structure ItemView where
  index : Nat
  question : String
  answer : String
  expanded : Bool
  controlId : String
  answerId : String
  height : Option Int
  icon : String
  deriving DecidableEq, Repr

structure AccordionView where
  openIndex : Option Int
  measured : Bool
  items : List ItemView
  deriving DecidableEq, Repr

namespace Accordion

def viewItem (a : Accordion) (item : FaqItem) (index : Nat) : ItemView :=
  let expanded := a.openIndex = some (index : Int)
  { index
    question := item.question
    answer := item.answer
    expanded
    controlId := SavingsSite.controlId index
    answerId := SavingsSite.answerId index
    height := a.heightAt index
    icon := if expanded then expandedIcon else collapsedIcon }

def render (a : Accordion) : AccordionView where
  openIndex := a.openIndex
  measured := a.measured
  items := a.items.mapIdx fun index item => a.viewItem item index

end Accordion

end SavingsSite
