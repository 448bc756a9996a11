set_option autoImplicit false

/-! The two classes of blank characters and the removal of characters at the ends of a text. -/

namespace SavingsSite.Text

def isWhiteSpace (c : Char) : Bool :=
  let n := c.toNat
  (9 ≤ n && n ≤ 13) || n == 0x20 || n == 0x85 || n == 0xA0 || n == 0x1680 ||
    (0x2000 ≤ n && n ≤ 0x200A) || n == 0x2028 || n == 0x2029 || n == 0x202F ||
    n == 0x205F || n == 0x3000

def isBlank (c : Char) : Bool :=
  isWhiteSpace c || (0x1C ≤ c.toNat && c.toNat ≤ 0x1F)

def trimEnd (drop : Char → Bool) (text : List Char) : List Char :=
  (text.reverse.dropWhile drop).reverse

def trim (drop : Char → Bool) (text : List Char) : List Char :=
  trimEnd drop (text.dropWhile drop)

/-- The parts of a text between the occurrences of `mark`; there is always one part. -/
def splitOn (mark : Char) : List Char → List (List Char)
  | [] => [[]]
  | c :: rest =>
      if c = mark then [] :: splitOn mark rest
      else match splitOn mark rest with
        | [] => [[c]]
        | part :: parts => (c :: part) :: parts

end SavingsSite.Text
