import PolicyKeeper.Yaml.Basic
import PolicyKeeper.Yaml.Scan

/-!
# YAML scalars

A scalar without quotes is a number, one of the words that have a meaning of their own, or plain
text. Numbers and words have to be followed by a blank, a line break, a colon, a bracket, a comma or
nothing; once they are, the text is read as such, whatever comes behind the blank. Plain text ends
before a colon with a blank or a line break behind it, before a comment, and inside brackets also
before commas and brackets. It goes on in the lines below as long as they are further right than
what it belongs to.

Quoted text may span lines too. Between double quotes a backslash changes the meaning of a few
letters and is dropped in front of every other character. Anchors, aliases, tags, and text that
keeps its line breaks are not read.
-/

namespace PolicyKeeper.Yaml

/-- Characters that bound numbers and words, as the end of the text does. -/
def isBound (c : Char) : Bool :=
  [' ', '\n', '\r', ':', '\x7b', '\x7d', '[', ']', ','].contains c

/-- Takes nothing, but fails unless a number or a word may end here. -/
def bound : Scan Unit := Scan.followedBy fun cs => cs.head?.all isBound

/-! ## Numbers and words -/

/-- Takes the digits of a whole number. -/
def digits : Scan (List Char) := Scan.run1 Char.isDigit

/-- Takes the sign of an exponent, if it has one. -/
def exponentSign : Scan (List Char) :=
  (do Scan.exactly "-"; return ['-']) <|> (do Scan.exactly "+"; return ['+']) <|> pure []

/-- Takes an exponent. -/
def exponent : Scan (List Char) := do
  let mark ← (do Scan.exactly "e"; return 'e') <|> (do Scan.exactly "E"; return 'E')
  let sign ← exponentSign
  return mark :: sign ++ (← digits)

/-- Takes a fraction, of which the digits may be missing if an exponent follows. -/
def fraction : Scan (List Char) := do
  Scan.exactly "."
  return '.' :: (← Scan.run Char.isDigit)

/-- Takes a number. -/
def number : Scan Yaml := do
  let sign ← (do Scan.exactly "-"; return ['-']) <|> pure []
  let whole := sign ++ (← digits)
  let point ← fraction <|> pure []
  let power ← exponent <|> pure []
  bound
  if power.isEmpty then
    if point.isEmpty then return .int (String.ofList whole)
    else if point = ['.'] then failure
    else if point = ['.', '0'] then return .float (String.ofList whole)
    else return .float (String.ofList (whole ++ point))
  else return .float (String.ofList (whole ++ point ++ power))

/-- The words that mean something other than themselves. -/
def words : List (String × Yaml) :=
  [("~", .null), ("null", .null), ("Null", .null), ("NULL", .null),
    ("true", .bool true), ("True", .bool true), ("TRUE", .bool true),
    ("false", .bool false), ("False", .bool false), ("FALSE", .bool false),
    (".inf", .float "inf"), (".Inf", .float "inf"), (".INF", .float "inf"),
    ("-.inf", .float "-inf"), ("-.Inf", .float "-inf"), ("-.INF", .float "-inf"),
    (".nan", .float "NaN"), (".NaN", .float "NaN"), (".NAN", .float "NaN")]

/-- Takes a word that means something other than itself. -/
def word : Scan Yaml := words.firstM fun (w, meaning) => do
  Scan.exactly w
  bound
  return meaning

/-! ## Quoted text -/

/-- Takes characters between single quotes up to the end of a line. A quote is written twice, and
stays so for now. -/
def singleChunk : List Char → List Char × List Char
  | '\'' :: '\'' :: rest =>
    let (taken, after) := singleChunk rest
    ('\'' :: '\'' :: taken, after)
  | c :: rest =>
    if c = '\'' ∨ isBreak c then ([], c :: rest)
    else
      let (taken, after) := singleChunk rest
      (c :: taken, after)
  | [] => ([], [])

/-- Takes characters between double quotes up to the end of a line. A backslash and the character
behind it stay as they are for now. -/
def doubleChunk : List Char → List Char × List Char
  | '\\' :: c :: rest =>
    let (taken, after) := doubleChunk rest
    ('\\' :: c :: taken, after)
  | c :: rest =>
    if c = '"' ∨ isBreak c then ([], c :: rest)
    else
      let (taken, after) := doubleChunk rest
      (c :: taken, after)
  | [] => ([], [])

/-- Takes text between quotes, line by line. -/
def quotedLines (quote : String) (chunk : List Char → List Char × List Char) :
    Scan (List Char) := do
  let chunk : Scan (List Char) := fun cs => some (chunk cs)
  Scan.exactly quote
  let first ← chunk
  let others ← Scan.many (do
    let breaks ← Scan.many1 (do lineEnd; let _ ← blanks)
    return (breaks.length, ← chunk))
  Scan.exactly quote
  let withoutEnd (cs : List Char) : List Char := (cs.reverse.dropWhile isGap).reverse
  return others.foldl (fun text (n, line) => withoutEnd text ++ joint n ++ line) first

/-- Single quotes that are written twice, once. -/
def unquoteSingle : List Char → List Char
  | '\'' :: '\'' :: rest => '\'' :: unquoteSingle rest
  | c :: rest => c :: unquoteSingle rest
  | [] => []

/-- What a character behind a backslash means. -/
def escaped (c : Char) : Char :=
  ([('b', '\x08'), ('f', '\x0c'), ('n', '\n'), ('r', '\r'), ('t', '\t')].lookup c).getD c

/-- Characters behind backslashes, with their meaning. -/
def unquoteDouble : List Char → List Char
  | '\\' :: c :: rest => escaped c :: unquoteDouble rest
  | c :: rest => c :: unquoteDouble rest
  | [] => []

/-- Takes a quoted text. -/
def quoted : Scan Yaml :=
  (do return .str (String.ofList (unquoteSingle (← quotedLines "'" singleChunk)))) <|>
  (do return .str (String.ofList (unquoteDouble (← quotedLines "\"" doubleChunk))))

/-! ## Plain text -/

/-- Whether a colon in front of these characters divides a key from its value. -/
def endsKey : List Char → Bool
  | [] => false
  | c :: _ => c == ' ' || isBreak c

/-- Characters that end plain text inside brackets. -/
def isBracketMark (c : Char) : Bool := [',', '[', ']', '\x7b', '\x7d'].contains c

/-- Cuts plain text from what follows it on its line. -/
def cutPlain (inBrackets : Bool) : List Char → List Char × List Char
  | [] => ([], [])
  | c :: rest =>
    let stops :=
      isBreak c || (c == ':' && endsKey rest) || (inBrackets && isBracketMark c) ||
        (isGap c && (rest.dropWhile isGap).head? == some '#')
    if stops then ([], c :: rest)
    else
      let (taken, after) := cutPlain inBrackets rest
      (c :: taken, after)

/-- Whether something starts here that is no plain text and is not read either: an anchor, an alias,
a tag, or text that keeps its line breaks. -/
def startsOther : List Char → Bool
  | c :: rest =>
    if c == '&' || c == '*' then rest.head?.any Char.isAlphanum
    else if c == '!' then rest.head?.any fun d => !(isGap d || isBreak d)
    else if c == '|' || c == '>' then
      (rest.dropWhile fun d => d == '+' || d == '-' || d.isDigit).head?.any isBreak
    else false
  | [] => false

/-- Takes a line of plain text, which is trimmed at its end and may not be empty. -/
def plainLine (inBrackets : Bool) : Scan (List Char) := fun cs =>
  let (taken, after) := cutPlain inBrackets cs
  let text := (taken.reverse.dropWhile Text.isBlank).reverse
  if text.isEmpty then none else some (text, after)

/-- Takes plain text on one line. -/
def plainKey (inBrackets : Bool) : Scan Yaml :=
  do return .str (String.ofList (← plainLine inBrackets))

/-- Takes plain text that goes on in the lines below as long as they start right of a column. -/
def plain (inBrackets : Bool) (column : Nat) : Scan Yaml := do
  let first ← plainLine inBrackets
  let others ← Scan.many (do
    let breaks ← gap
    if (← blanks) ≤ column then failure
    return joint breaks ++ (← plainLine inBrackets))
  return .str (String.ofList (first ++ others.flatten))

end PolicyKeeper.Yaml
