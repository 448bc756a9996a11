import SavingsSite.Schema.Record

set_option autoImplicit false

/-! The records that cross the boundary of the site: questions and answers, accordion views, a
request to toggle, and the hero section. -/

namespace SavingsSite.Content

open Schema

def required (name : String) (shape : Shape) (rest : Fields) : Fields :=
  .field name shape none rest

def optional (name : String) (shape : Shape) (default : Json) (rest : Fields) : Fields :=
  .field name shape (some default) rest

def nonEmptyText : Shape := .text (.atLeast 1)

def anyText : Shape := .text .any

def anyInteger : Shape := .integer none none

def position : Shape := .integer (some 0) none

def faqItemKind : RecordKind where
  title := "FAQItem"
  fields := required "question" nonEmptyText (required "answer" nonEmptyText .done)
  frozen := true

def faqListKind : RecordKind where
  title := "FAQList"
  fields := required "title" anyText (required "items" (.list 0 faqItemKind.shape) .done)
  frozen := false

def itemViewKind : RecordKind where
  title := "FAQItemView"
  fields :=
    required "index" position
      (required "question" anyText
        (required "answer" anyText
          (required "expanded" .flag
            (required "control_id" anyText
              (required "answer_id" anyText
                (required "height_px" (.nullable anyInteger)
                  (required "toggle_icon" (.oneOf ["+", "×"]) .done)))))))
  frozen := false

def accordionViewKind : RecordKind where
  title := "AccordionView"
  fields :=
    optional "open_index" (.nullable anyInteger) .null
      (optional "measured" .flag (.flag false)
        (required "items" (.list 0 itemViewKind.shape) .done))
  frozen := false

def toggleRequestKind : RecordKind where
  title := "ToggleRequest"
  fields := optional "open_index" (.nullable position) .null (required "index" position .done)
  frozen := false

def callToActionKind : RecordKind where
  title := "CallToAction"
  fields := required "label" nonEmptyText (required "href" nonEmptyText .done)
  frozen := true

def heroStatKind : RecordKind where
  title := "HeroStat"
  fields := required "label" anyText (required "value" anyText .done)
  frozen := true

def heroContentKind : RecordKind where
  title := "HeroContent"
  fields :=
    required "headline" (.list 1 anyText)
      (required "subheadline" anyText
        (required "primary_cta" callToActionKind.shape
          (required "secondary_cta" callToActionKind.shape
            (required "image_src" anyText
              (required "image_alt" anyText
                (optional "stat" (.nullable heroStatKind.shape) .null .done))))))
  frozen := true

def recordKinds : List RecordKind :=
  [faqItemKind, faqListKind, itemViewKind, accordionViewKind, toggleRequestKind,
    callToActionKind, heroStatKind, heroContentKind]

def recordKind? (title : String) : Option RecordKind := recordKinds.find? (·.title = title)

end SavingsSite.Content
