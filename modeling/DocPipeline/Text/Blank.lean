/-!
# White space

A blank is a character with the Unicode property `White_Space`.  Trimming and
splitting into words go by blanks.
-/

namespace DocPipeline.Text

def isBlank (c : Char) : Bool :=
  let n := c.toNat
  (0x09 ≤ n && n ≤ 0x0D) || n == 0x20 || n == 0x85 || n == 0xA0 || n == 0x1680 ||
    (0x2000 ≤ n && n ≤ 0x200A) || n == 0x2028 || n == 0x2029 || n == 0x202F ||
    n == 0x205F || n == 0x3000

def trimChars (cs : List Char) : List Char :=
  ((cs.dropWhile isBlank).reverse.dropWhile isBlank).reverse

def trim (s : String) : String := String.ofList (trimChars s.toList)

def isBlankLine (cs : List Char) : Bool := cs.all isBlank

/-- The number of maximal runs of characters that are not blank. -/
def countWordsIn : List Char → Nat
  | [] => 0
  | [c] => if isBlank c then 0 else 1
  | c :: d :: cs => countWordsIn (d :: cs) + if !isBlank c && isBlank d then 1 else 0

def countWords (s : String) : Nat := countWordsIn s.toList

end DocPipeline.Text
