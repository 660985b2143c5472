set_option autoImplicit false

/-! White space, by the property of Unicode. -/

namespace CanvasChart.Text

def blankRanges : List (Nat × Nat) :=
  [ (0x9, 0xd), (0x20, 0x20), (0x85, 0x85), (0xa0, 0xa0), (0x1680, 0x1680), (0x2000, 0x200a),
    (0x2028, 0x2029), (0x202f, 0x202f), (0x205f, 0x205f), (0x3000, 0x3000) ]

def isBlank (letter : Char) : Bool :=
  blankRanges.any fun range => range.1 ≤ letter.toNat && letter.toNat ≤ range.2

def trim (text : List Char) : List Char :=
  ((text.dropWhile isBlank).reverse.dropWhile isBlank).reverse

/-- The words of a text, with `word` the letters of the current one in reverse. -/
def wordsFrom : List Char → List Char → List (List Char)
  | word, [] => if word = [] then [] else [word.reverse]
  | word, letter :: rest =>
      if isBlank letter then
        if word = [] then wordsFrom [] rest else word.reverse :: wordsFrom [] rest
      else wordsFrom (letter :: word) rest

def words (text : List Char) : List (List Char) := wordsFrom [] text

end CanvasChart.Text
