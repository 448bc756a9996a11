import SavingsSite.Text.Utf8

set_option autoImplicit false

/-! Percent-encoding of texts in addresses. -/

namespace SavingsSite.Text

def isUnreserved (c : Char) : Bool :=
  c.isAlphanum || c = '_' || c = '.' || c = '-' || c = '~'

/-- The characters of an address that stay as they are, an escape's own sign included. -/
def isAddressChar (c : Char) : Bool :=
  isUnreserved c || ":/%#?=@[]!$&'()*+,;".toList.contains c

def percentByte (b : Nat) : List Char := '%' :: (hexText 2 b).map Char.toUpper

/-- A text with an escape for every byte of a character that does not satisfy `keep`. -/
def percentEncode (keep : Char → Bool) (text : List Char) : List Char :=
  text.flatMap fun c =>
    if keep c then [c]
    else (encodeUtf8 [c]).flatMap percentByte

def unescapeBytes : List Char → List Nat
  | [] => []
  | [c] => [c.toNat]
  | [c, d] => [c.toNat, d.toNat]
  | c :: a :: b :: rest =>
      match (if c = '%' then hexValue? a else none), hexValue? b with
      | some high, some low => (high * 16 + low) :: unescapeBytes rest
      | _, _ => c.toNat :: unescapeBytes (a :: b :: rest)

def isAscii (c : Char) : Bool := c.toNat < 0x80

/-- A text with its escapes resolved. Rows of ASCII characters are read as UTF-8 with replacement
of faults; `row` holds the open one, last character first. -/
def percentDecode (row : List Char) : List Char → List Char
  | [] => decodeLossy (unescapeBytes row.reverse)
  | c :: rest =>
      if isAscii c then percentDecode (c :: row) rest
      else decodeLossy (unescapeBytes row.reverse) ++ c :: percentDecode [] rest

end SavingsSite.Text
