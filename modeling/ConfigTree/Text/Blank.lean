/-!
# Blank characters

White space in the wide sense: the characters with the property `White_Space`,
which is more than ASCII has.  Trimming, the test for blank text and the cutting
of text into words all go by it.

## Main definitions

* `isBlank` — the property.
* `trim`, `isAllBlank`, `words` — what is done with it.
-/

namespace ConfigTree.Text

/-- A character with the property `White_Space`. -/
def isBlank (c : Char) : Bool :=
  let n := c.toNat
  n == 0x20 || (0x9 ≤ n && n ≤ 0xD) || n == 0x85 || n == 0xA0 || n == 0x1680
    || (0x2000 ≤ n && n ≤ 0x200A) || n == 0x2028 || n == 0x2029 || n == 0x202F
    || n == 0x205F || n == 0x3000

/-- Text without the blanks at its start. -/
def trimStart (cs : List Char) : List Char := cs.dropWhile isBlank

/-- Text without the blanks at its end. -/
def trimEnd (cs : List Char) : List Char := (cs.reverse.dropWhile isBlank).reverse

/-- Text without the blanks at its two ends. -/
def trim (cs : List Char) : List Char := trimEnd (trimStart cs)

/-- Text of blanks only; the empty text is one. -/
def isAllBlank (cs : List Char) : Bool := cs.all isBlank

/-- Cuts at runs of blanks, with the word read so far and the words before it, each
list held back to front. -/
def wordsFrom (word : List Char) (done : List (List Char)) : List Char → List (List Char)
  | [] => (if word.isEmpty then done else word.reverse :: done).reverse
  | c :: cs =>
    if isBlank c then
      wordsFrom [] (if word.isEmpty then done else word.reverse :: done) cs
    else wordsFrom (c :: word) done cs

/-- The maximal runs of characters that are not blank. -/
def words (cs : List Char) : List (List Char) := wordsFrom [] [] cs

@[simp] theorem words_nil : words [] = [] := rfl

end ConfigTree.Text
