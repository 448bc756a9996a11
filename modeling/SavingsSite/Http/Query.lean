import SavingsSite.Text.Blank
import SavingsSite.Text.Percent

set_option autoImplicit false

/-! Query strings: names and values between ampersands. Every byte of the text is read as one
character, plus signs are spaces, and escapes are resolved. -/

namespace SavingsSite.Http

def queryText (part : List Char) : String :=
  String.ofList (Text.percentDecode [] (part.map fun c => if c = '+' then ' ' else c))

/-- The name and the value of a part that is not empty; without an equals sign the value is empty. -/
def queryPair (part : List Char) : String × String :=
  (queryText (part.takeWhile (· ≠ '=')), queryText (part.dropWhile (· ≠ '=')).tail)

def queryPairs (query : String) : List (String × String) :=
  let chars := (Text.encodeUtf8 query.toList).map Char.ofNat
  ((Text.splitOn '&' chars).filter (!List.isEmpty ·)).map queryPair

def queryValue? (query : String) (name : String) : Option String :=
  ((queryPairs query).reverse.find? (·.1 = name)).map Prod.snd

end SavingsSite.Http
