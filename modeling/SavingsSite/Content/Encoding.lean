import SavingsSite.Accordion.View
import SavingsSite.Content.Hero
import SavingsSite.Content.Shapes

set_option autoImplicit false

/-! The records of the content: each value of the site as the JSON record of its kind. -/

namespace SavingsSite

def FaqItem.toJson (item : FaqItem) : Json :=
  Json.ofFields [("question", Json.ofString item.question), ("answer", Json.ofString item.answer)]

def textField? (record : Json) (name : String) : Option String :=
  match record.field? name with
  | some (.text (.sound value)) => some value
  | _ => none

def FaqItem.ofData (input : Json) : Except (List Schema.Issue) FaqItem :=
  (Content.faqItemKind.ofData input).map fun record =>
    ⟨(textField? record "question").getD "", (textField? record "answer").getD ""⟩

def CallToAction.toJson (action : CallToAction) : Json :=
  Json.ofFields [("label", Json.ofString action.label), ("href", Json.ofString action.href)]

def HeroStat.toJson (stat : HeroStat) : Json :=
  Json.ofFields [("label", Json.ofString stat.label), ("value", Json.ofString stat.value)]

def HeroContent.toJson (hero : HeroContent) : Json :=
  Json.ofFields [
    ("headline", Json.ofStrings hero.headline),
    ("subheadline", Json.ofString hero.subheadline),
    ("primary_cta", hero.primary.toJson),
    ("secondary_cta", hero.secondary.toJson),
    ("image_src", Json.ofString hero.imageSource),
    ("image_alt", Json.ofString hero.imageText),
    ("stat", Json.ofOption HeroStat.toJson hero.stat)]

def ItemView.toJson (view : ItemView) : Json :=
  Json.ofFields [
    ("index", Json.ofNat view.index),
    ("question", Json.ofString view.question),
    ("answer", Json.ofString view.answer),
    ("expanded", .flag view.expanded),
    ("control_id", Json.ofString view.controlId),
    ("answer_id", Json.ofString view.answerId),
    ("height_px", Json.ofOption Json.whole view.height),
    ("toggle_icon", Json.ofString view.icon)]

def AccordionView.toJson (view : AccordionView) : Json :=
  Json.ofFields [
    ("open_index", Json.ofOption Json.whole view.openIndex),
    ("measured", .flag view.measured),
    ("items", .list (view.items.map ItemView.toJson))]

def Content.faqList : Json :=
  Json.ofFields [
    ("title", Json.ofString Content.faqTitle),
    ("items", .list (Content.faqItems.map FaqItem.toJson))]

end SavingsSite
