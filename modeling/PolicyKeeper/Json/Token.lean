import PolicyKeeper.Json.Numeral
import PolicyKeeper.Text.Hex

/-!
# Tokens of JSON text

A text is a sequence of marks (brackets, commas, colons) and scalars between blanks. The lexer
reads one character at a time and keeps in its state what the characters so far may still become.
It is strict about how things are written: four kinds of blank, no raw control character inside a
string, and numbers without a leading zero or a plus sign. A string with half of a surrogate pair
and a number beyond the range of doubles are tokens, but have no value.
-/

namespace PolicyKeeper.Json

/-- A mark, a string or another scalar. A string with half of a surrogate pair has no value. -/
inductive Token where
  | openArr
  | closeArr
  | openObj
  | closeObj
  | comma
  | colon
  | text (value : Option String)
  | scalar (value : Document)
deriving Inhabited, Repr

/-! ## Numbers -/

/-- Reads what may follow the digits of a number: a fraction, then an exponent. -/
def numeralOfParts (negative : Bool) (whole rest : List Char) : Option Numeral :=
  let fraction? : Option (List Char × List Char) :=
    match rest with
    | '.' :: r =>
      let digits := r.takeWhile Char.isDigit
      if digits.isEmpty then none else some (digits, r.dropWhile Char.isDigit)
    | _ => some ([], rest)
  fraction?.bind fun (fraction, rest) =>
    match rest with
    | [] => some { negative, whole, fraction }
    | c :: r =>
      if c = 'e' ∨ c = 'E' then
        let (down, r) : Bool × List Char :=
          match r with
          | '-' :: r => (true, r)
          | '+' :: r => (false, r)
          | r => (false, r)
        if r.isEmpty ∨ ¬ r.all Char.isDigit then none
        else
          let e : Int := if down then -(digitsValue r : Int) else digitsValue r
          some { negative, whole, fraction, exponent := some e }
      else none

/-- The number that a word writes. -/
def numeralOfWord (word : List Char) : Option Numeral :=
  let (negative, digits) : Bool × List Char :=
    match word with
    | '-' :: r => (true, r)
    | r => (false, r)
  match digits with
  | '0' :: r => numeralOfParts negative ['0'] r
  | _ =>
    let whole := digits.takeWhile Char.isDigit
    if whole.isEmpty then none
    else numeralOfParts negative whole (digits.dropWhile Char.isDigit)

/-- The scalar that an unquoted word writes: a literal name or a number. -/
def scalarOfWord (word : List Char) : Option Document :=
  if word = ['n', 'u', 'l', 'l'] then some .null
  else if word = ['t', 'r', 'u', 'e'] then some (.bool true)
  else if word = ['f', 'a', 'l', 's', 'e'] then some (.bool false)
  else (numeralOfWord word).map Numeral.document

/-! ## The lexer -/

/-- The characters of a string under way, last character first, unless half of a surrogate pair was
among them. -/
abbrev Chars := Option (List Char)

/-- What the lexer is in the middle of. -/
inductive Lexing where
  /-- Between tokens. -/
  | ready
  /-- In an unquoted word, given last character first. -/
  | word (chars : List Char)
  /-- In a string. -/
  | string (chars : Chars)
  /-- In a string, after a backslash. -/
  | escape (chars : Chars)
  /-- In a string, in the four digits of a code unit; `high` is the surrogate before it. -/
  | unit (chars : Chars) (high : Option Nat) (missing value : Nat)
  /-- In a string, after a high surrogate, where the escape of a low one should follow. -/
  | surrogate (chars : Chars) (high : Nat)
  /-- As `surrogate`, after a backslash. -/
  | surrogateEscape (chars : Chars) (high : Nat)

/-- The four blanks of JSON text. -/
def isSpace (c : Char) : Bool := c == ' ' || c == '\t' || c == '\n' || c == '\r'

/-- The token of a one-character mark. -/
def mark? (c : Char) : Option Token :=
  if c = '[' then some .openArr
  else if c = ']' then some .closeArr
  else if c = '\x7b' then some .openObj
  else if c = '\x7d' then some .closeObj
  else if c = ',' then some .comma
  else if c = ':' then some .colon
  else none

/-- The character that a one-letter escape stands for. -/
def escaped? (c : Char) : Option Char :=
  if c = '"' ∨ c = '\\' ∨ c = '/' then some c
  else if c = 'b' then some '\x08'
  else if c = 'f' then some '\x0c'
  else if c = 'n' then some '\n'
  else if c = 'r' then some '\r'
  else if c = 't' then some '\t'
  else none

/-- What a complete code unit adds to the string: a character, or the first half of one. -/
def closeUnit (chars : Chars) : (high : Option Nat) → (unit : Nat) → Lexing
  | none, u =>
    if 0xd800 ≤ u ∧ u < 0xdc00 then .surrogate chars u
    else if 0xdc00 ≤ u ∧ u < 0xe000 then .string none
    else .string (chars.map (Char.ofNat u :: ·))
  | some high, u =>
    if 0xdc00 ≤ u ∧ u < 0xe000 then
      let c := Char.ofNat (0x10000 + (high - 0xd800) * 0x400 + (u - 0xdc00))
      .string (chars.map (c :: ·))
    else .string none

/-- Reads a character between tokens. The tokens found so far come last one first. -/
def startToken (tokens : List Token) (c : Char) : Lexing × List Token :=
  if isSpace c then (.ready, tokens)
  else if c = '"' then (.string (some []), tokens)
  else match mark? c with
    | some t => (.ready, t :: tokens)
    | none => (.word [c], tokens)

/-- Reads a character of a string. -/
def lexString (chars : Chars) (tokens : List Token) (c : Char) : Option (Lexing × List Token) :=
  if c = '"' then
    some (.ready, .text (chars.map fun cs => String.ofList cs.reverse) :: tokens)
  else if c = '\\' then some (.escape chars, tokens)
  else if c.toNat < 0x20 then none
  else some (.string (chars.map (c :: ·)), tokens)

/-- Reads the character after a backslash in a string. `high` is the surrogate before it. -/
def lexEscape (chars : Chars) (high : Option Nat) (tokens : List Token) (c : Char) :
    Option (Lexing × List Token) :=
  if c = 'u' then some (.unit chars high 4 0, tokens)
  else (escaped? c).map fun e =>
    (.string (if high.isSome then none else chars.map (e :: ·)), tokens)

/-- Reads one character. -/
def lexChar : Lexing × List Token → Char → Option (Lexing × List Token)
  | (.ready, tokens), c => some (startToken tokens c)
  | (.word chars, tokens), c =>
    if isSpace c ∨ c = '"' ∨ (mark? c).isSome then
      (scalarOfWord chars.reverse).map fun value => startToken (.scalar value :: tokens) c
    else some (.word (c :: chars), tokens)
  | (.string chars, tokens), c => lexString chars tokens c
  | (.escape chars, tokens), c => lexEscape chars none tokens c
  | (.unit chars high missing value, tokens), c =>
    (Text.hexValue? c).map fun digit =>
      let value := 16 * value + digit
      if missing ≤ 1 then (closeUnit chars high value, tokens)
      else (.unit chars high (missing - 1) value, tokens)
  | (.surrogate chars high, tokens), c =>
    if c = '\\' then some (.surrogateEscape chars high, tokens) else lexString none tokens c
  | (.surrogateEscape chars high, tokens), c => lexEscape chars (some high) tokens c

/-- The tokens of a text, if it can be cut into tokens. -/
def tokens? (text : List Char) : Option (List Token) := do
  match ← text.foldlM lexChar (.ready, []) with
  | (.ready, tokens) => return tokens.reverse
  | (.word chars, tokens) => return (.scalar (← scalarOfWord chars.reverse) :: tokens).reverse
  | _ => none

end PolicyKeeper.Json
