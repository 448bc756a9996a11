import SavingsSite.Proofs.Http.Transport
import SavingsSite.Proofs.Json.RoundTrip
import SavingsSite.Proofs.Schema.Reading
import SavingsSite.Proofs.Service.Application
import SavingsSite.Proofs.Service.Clicks

set_option autoImplicit false

/-! A client of the accordion. It keeps the open index of the last answer that had one, sends it
along with each click, and so sees the site as one accordion that has been mounted once. -/

namespace SavingsSite.Service

open Routing
open Text (Symbol AllAscii isAscii)

/-! ### Requests -/

def togglePath : String := "/api/v1/faq/accordion/toggle"

def accordionPath : String := "/api/v1/faq/accordion"

def toggleRecord (openIndex : Option Int) (index : Int) : Json :=
  Json.ofFields [("open_index", Json.ofOption Json.whole openIndex), ("index", .whole index)]

/-- A click, sent at some time with headers that announce a JSON body. -/
structure Click where
  index : Int
  now : String
  headers : List (String × String)
  short : (Nat.toDigits 10 index.natAbs).length ≤ Json.digitLimit
  isJson : Http.isJsonType (((headers.find? (·.1 = "content-type")).map Prod.snd).getD "") = true

def Click.plain (index : Int)
    (short : (Nat.toDigits 10 index.natAbs).length ≤ Json.digitLimit) : Click where
  index
  now := ""
  headers := [("content-type", "application/json")]
  short
  isJson := by decide +kernel

theorem Click.isWritable (click : Click) : isWritable click.index = true :=
  (Json.isWritable_iff_digits click.index).mpr click.short

/-- The request of a click. The body is the compact text of the record. -/
def Click.request (click : Click) (openIndex : Option Int) : Http.Request where
  method := "POST"
  path := togglePath
  query := ""
  headers := click.headers
  body := Text.bytesOf (toggleRecord openIndex click.index).compact.toList

def viewRequest (openIndex : Option Int) (headers : List (String × String)) : Http.Request where
  method := "GET"
  path := accordionPath
  query :=
    match openIndex with
    | none => ""
    | some index => "open_index=" ++ toString index
  headers
  body := []

/-- The open index that a client keeps after a response. -/
def keptIndex (openIndex : Option Int) (response : Http.Response) : Option Int :=
  match response.content with
  | .json value => if response.status = 200 then integerField? value "open_index" else openIndex
  | _ => openIndex

structure Exchange where
  click : Click
  response : Http.Response
  openIndex : Option Int

/-- The exchanges of a client that starts with an open index. -/
def Site.converse (site : Site) (openIndex : Option Int) : List Click → List Exchange
  | [] => []
  | click :: rest =>
      let response := (site.respond click.now (click.request openIndex)).response
      let kept := keptIndex openIndex response
      ⟨click, response, kept⟩ :: site.converse kept rest

/-! ### The body of a click -/

def positionText : Option Int → List Char
  | none => "null".toList
  | some index => (toString index).toList

def nameText (name : String) : List Char := '"' :: (name.toList ++ ['"', ':'])

def toggleText (openIndex : Option Int) (index : Int) : List Char :=
  '\x7b' :: (nameText "open_index" ++ (positionText openIndex ++
    (',' :: (nameText "index" ++ ((toString index).toList ++ ['\x7d'])))))

theorem print_name {name : String} (plain : Json.AllUnescaped name.toList)
    (rest : List Symbol) :
    Json.stringBefore (.sound name) (.char ':' :: rest) =
      (nameText name).map Symbol.char ++ rest := by
  rw [Json.stringBefore_plain plain, nameText, List.map_cons, List.map_append, List.cons_append,
    List.append_assoc]
  rfl

theorem print_position (openIndex : Option Int) (rest : List Symbol) :
    Json.printBefore rest (Json.ofOption Json.whole openIndex) =
      (positionText openIndex).map Symbol.char ++ rest := by
  rw [← Json.before_eq]
  cases openIndex <;> rfl

theorem print_toggleRecord (openIndex : Option Int) (index : Int) :
    (toggleRecord openIndex index).print = (toggleText openIndex index).map Symbol.char := by
  have printed : (toggleRecord openIndex index).print = .char '\x7b' ::
      Json.stringBefore (.sound "open_index") (.char ':' ::
        Json.printBefore (.char ',' :: Json.stringBefore (.sound "index") (.char ':' ::
          Json.before (toString index).toList [.char '\x7d'])) (Json.ofOption Json.whole openIndex)) :=
    rfl
  rw [printed, print_name (by decide +kernel), print_position, print_name (by decide +kernel),
    Json.before_eq]
  simp only [toggleText, List.map_append, List.map_cons, List.map_nil]

theorem compact_toggleRecord (openIndex : Option Int) (index : Int) :
    (toggleRecord openIndex index).compact.toList = toggleText openIndex index := by
  have same : ∀ c ∈ toggleText openIndex index,
      ((fun s : Symbol => s.toChar?.getD '\uFFFD') ∘ Symbol.char) c = id c := fun c _member => rfl
  rw [Json.compact, String.toList_ofList, print_toggleRecord, List.map_map,
    List.map_congr_left same, List.map_id]

theorem allAscii_integer (index : Int) : AllAscii (toString index).toList := by
  have digits (n : Nat) : AllAscii (Nat.toDigits 10 n) := fun c member =>
    Text.isAscii_of_isDigit (Text.isDigit_of_mem_decimal member)
  cases index with
  | ofNat n =>
      rw [Text.toList_toString_ofNat]
      exact digits n
  | negSucc n =>
      rw [Text.toList_toString_negSucc]
      exact List.forall_mem_cons.mpr ⟨rfl, digits (n + 1)⟩

theorem allAscii_toggleText (openIndex : Option Int) (index : Int) :
    AllAscii (toggleText openIndex index) := by
  have position : AllAscii (positionText openIndex) := by
    cases openIndex with
    | none => decide +kernel
    | some current => exact allAscii_integer current
  have openName : AllAscii (nameText "open_index") := by decide +kernel
  have indexName : AllAscii (nameText "index") := by decide +kernel
  have closing : AllAscii ['\x7d'] := List.forall_mem_singleton.mpr rfl
  have own := List.forall_mem_append.mpr
    ⟨indexName, List.forall_mem_append.mpr ⟨allAscii_integer index, closing⟩⟩
  exact List.forall_mem_cons.mpr ⟨rfl, List.forall_mem_append.mpr ⟨openName,
    List.forall_mem_append.mpr ⟨position, List.forall_mem_cons.mpr ⟨rfl, own⟩⟩⟩⟩

theorem short_of_inside {index : Int} (inside : 0 ≤ index ∧ index < itemCount) :
    (Nat.toDigits 10 index.natAbs).length ≤ Json.digitLimit := by
  have few : itemCount ≤ 10 := by decide
  have oneDigit : (Nat.toDigits 10 index.natAbs).length ≤ 1 := by
    rw [Nat.length_toDigits_le_iff (by decide) (by decide)]
    omega
  exact Nat.le_trans oneDigit (by decide)

theorem readable_toggleRecord {openIndex : Option Int} (isOpen : IsOpen openIndex) {index : Int}
    (short : (Nat.toDigits 10 index.natAbs).length ≤ Json.digitLimit) :
    Json.Readable Json.Body.dialect 0 (toggleRecord openIndex index) := by
  have position : Json.Readable Json.Body.dialect 1 (Json.ofOption Json.whole openIndex) := by
    cases openIndex with
    | none =>
        rw [Json.ofOption, Json.Readable]
        decide
    | some current =>
        rw [Json.ofOption, Json.Readable]
        exact ⟨by decide, short_of_inside (isOpen current rfl)⟩
  simp only [toggleRecord, Json.ofFields, List.map_cons, List.map_nil, Json.Readable,
    Json.FieldsReadable]
  exact ⟨by decide, by decide, rfl, position, rfl, ⟨by decide, short⟩, trivial⟩

theorem bodyValue_request (click : Click) {openIndex : Option Int} (isOpen : IsOpen openIndex) :
    (click.request openIndex).bodyValue = .json (toggleRecord openIndex click.index) := by
  have body : (click.request openIndex).body = Text.bytesOf (toggleText openIndex click.index) := by
    rw [← compact_toggleRecord]
    rfl
  refine Http.bodyValue_of_ascii body (List.cons_ne_nil _ _) (allAscii_toggleText _ _) rfl
    click.isJson ?_
  rw [← print_toggleRecord, Json.Body.read,
    Json.scan_print _ (readable_toggleRecord isOpen click.short)]

end SavingsSite.Service
