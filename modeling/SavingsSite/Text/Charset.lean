import SavingsSite.Text.Digit
import SavingsSite.Text.Symbol

set_option autoImplicit false

/-! The character sets that texts are sent in, and the first part of a text that one of them does
not hold. -/

namespace SavingsSite.Text

/-- Bodies are sent in UTF-8, headers in the 256 characters of Latin-1. -/
inductive Charset where
  | utf8
  | latin1
  deriving DecidableEq, Repr

namespace Charset

def name : Charset → String
  | utf8 => "utf-8"
  | latin1 => "latin-1"

def holds : Charset → Symbol → Bool
  | utf8, s => !s.isHalf
  | latin1, s => s.point < 0x100

def reason : Charset → String
  | utf8 => "surrogates not allowed"
  | latin1 => "ordinal not in range(256)"

end Charset

structure EncodeFault where
  charset : Charset
  start : Nat
  covered : List Nat
  deriving DecidableEq, Repr

def EncodeFault.message (fault : EncodeFault) : String :=
  let subject :=
    match fault.covered with
    | [point] => "character '" ++ String.ofList (escapedPoint point) ++ "' in position " ++
        toString fault.start
    | points => "characters in position " ++ toString fault.start ++ "-" ++
        toString (fault.start + points.length - 1)
  "'" ++ fault.charset.name ++ "' codec can't encode " ++ subject ++ ": " ++ fault.charset.reason

/-- The first row of symbols of a text that the character set does not hold. -/
def encodeFault? (charset : Charset) (place : Nat) : List Symbol → Option EncodeFault
  | [] => none
  | s :: rest =>
      if charset.holds s then encodeFault? charset (place + 1) rest
      else
        let row := rest.takeWhile fun next => !charset.holds next
        some ⟨charset, place, (s :: row).map Symbol.point⟩

theorem encodeFault?_eq_none (charset : Charset) (place : Nat) (text : List Symbol)
    (sound : ∀ s ∈ text, charset.holds s = true) : encodeFault? charset place text = none := by
  induction text generalizing place with
  | nil => rfl
  | cons s rest ih =>
      have first := sound s List.mem_cons_self
      simp only [encodeFault?, if_pos first]
      exact ih (place + 1) fun next member => sound next (List.mem_cons_of_mem s member)

theorem exists_encodeFault {charset : Charset} {text : List Symbol}
    (lacking : ∃ s ∈ text, charset.holds s = false) (place : Nat) :
    ∃ fault, encodeFault? charset place text = some fault := by
  induction text generalizing place with
  | nil =>
      obtain ⟨_, member, _⟩ := lacking
      cases member
  | cons s rest ih =>
      rw [encodeFault?]
      cases held : charset.holds s with
      | false => exact ⟨_, if_neg Bool.false_ne_true⟩
      | true =>
          obtain ⟨other, member, lost⟩ := lacking
          rw [if_pos rfl]
          rcases List.mem_cons.mp member with rfl | later
          · cases held.symm.trans lost
          · exact ih ⟨other, later, lost⟩ (place + 1)

end SavingsSite.Text
