/-!
# Blank text

White space is the Unicode property `White_Space`: twenty-five characters, among them the line
breaks U+0085, U+2028 and U+2029 and the no-break space, but neither the zero width space U+200B
nor the byte order mark. Values read from a configuration are trimmed of it, and a name made of
nothing else counts as absent.
-/

namespace PolicyKeeper.Text

/-- White space in the sense of the Unicode property `White_Space`. -/
def isBlank (c : Char) : Bool :=
  let n := c.toNat
  (9 ≤ n && n ≤ 13) || n == 0x20 || n == 0x85 || n == 0xa0 || n == 0x1680 ||
    (0x2000 ≤ n && n ≤ 0x200a) || n == 0x2028 || n == 0x2029 || n == 0x202f || n == 0x205f ||
    n == 0x3000

/-- Characters without the white space at either end. -/
def trimBlanks (cs : List Char) : List Char :=
  ((cs.dropWhile isBlank).reverse.dropWhile isBlank).reverse

/-- A text without the white space at either end. -/
def trim (s : String) : String := String.ofList (trimBlanks s.toList)

/-- Whether nothing is left of a text once it is trimmed. -/
def isAllBlank (s : String) : Bool := s.toList.all isBlank

/-- Lower-cases the ASCII letters and leaves every other character alone. -/
def lowerAscii (s : String) : String := String.ofList (s.toList.map Char.toLower)

example : (['\t', '\n', '\r', ' ', '\u00a0', '\u3000'].all isBlank) = true := by decide
example : (['\u200b', '\ufeff', 'a', '\u001c'].any isBlank) = false := by decide

end PolicyKeeper.Text
