import PolicyKeeper.Text.Hex

/-!
# Percent encoding

A text is written as its UTF-8 bytes. A byte that is kept stands for itself, as an ASCII character;
any other is written as a percent sign and two hexadecimal digits. Which bytes are kept depends on
the place the text is written to. Decoding reads every well-formed escape and leaves all else alone,
so a text whose percent signs are escaped comes back as it was.
-/

namespace PolicyKeeper.Url

/-- The UTF-8 bytes of some characters. -/
def utf8Bytes (cs : List Char) : List UInt8 := cs.flatMap String.utf8EncodeChar

/-- A hexadecimal digit, in upper case. -/
def hexDigit (n : Nat) : Char := if n < 10 then Char.ofNat (48 + n) else Char.ofNat (55 + n)

/-- An escaped byte. -/
def escapeByte (b : UInt8) : List Char :=
  ['%', hexDigit (b.toNat / 16), hexDigit (b.toNat % 16)]

/-- Writes bytes, keeping some of them. -/
def encodeBytes (keep : UInt8 → Bool) (bs : List UInt8) : List Char :=
  bs.flatMap fun b => if keep b then [Char.ofNat b.toNat] else escapeByte b

/-- Writes a text, keeping some of its bytes. -/
def encodeWith (keep : UInt8 → Bool) (s : String) : String :=
  String.ofList (encodeBytes keep (utf8Bytes s.toList))

/-- The bytes that an encoded text writes. -/
def decodeBytes : List Char → List UInt8
  | '%' :: a :: b :: rest =>
    match Text.hexValue? a, Text.hexValue? b with
    | some m, some n => UInt8.ofNat (16 * m + n) :: decodeBytes rest
    | _, _ => 37 :: decodeBytes (a :: b :: rest)
  | c :: rest => String.utf8EncodeChar c ++ decodeBytes rest
  | [] => []

/-! ## What is kept where -/

/-- Whether a byte is an ASCII letter or digit. -/
def isWordByte (b : UInt8) : Bool :=
  (48 ≤ b && b ≤ 57) || (65 ≤ b && b ≤ 90) || (97 ≤ b && b ≤ 122)

/-- Whether a byte is one of some ASCII characters. -/
def isOneOf (chars : List Char) (b : UInt8) : Bool := chars.any fun c => c.toNat == b.toNat

/-- Kept in a name that is a segment of its own: letters, digits, and four marks. -/
def keptInName (b : UInt8) : Bool := isWordByte b || isOneOf ['-', '_', '.', '~'] b

/-- Kept everywhere: printable ASCII, the space included. -/
def isPrintableByte (b : UInt8) : Bool := 0x20 ≤ b && b ≤ 0x7e

/-- Kept in a fragment. -/
def keptInFragment (b : UInt8) : Bool :=
  isPrintableByte b && !isOneOf [' ', '"', '<', '>', '\x60'] b

/-- Kept in a path that is already cut into segments. -/
def keptInPath (b : UInt8) : Bool :=
  keptInFragment b && !isOneOf ['#', '?', '\x7b', '\x7d'] b

/-- Kept in a user name or a password. -/
def keptInUser (b : UInt8) : Bool :=
  keptInPath b && !isOneOf ['/', ':', ';', '=', '@', '[', '\\', ']', '^', '|'] b

/-- Kept in a query. Schemes that are special do not keep a single quote. -/
def keptInQuery (special : Bool) (b : UInt8) : Bool :=
  isPrintableByte b && !isOneOf [' ', '"', '#', '<', '>'] b && !(special && b == 39)

/-- A name as a segment of its own. -/
def encodeName (s : String) : String := encodeWith keptInName s

/-! ## Forms -/

/-- Kept in a part of a form. -/
def keptInForm (b : UInt8) : Bool := isWordByte b || isOneOf ['*', '-', '.', '_'] b

/-- A part of a form: as with other encodings, but a space is a plus. -/
def encodeFormPart (s : String) : String :=
  String.ofList <| (utf8Bytes s.toList).flatMap fun b =>
    if b == 32 then ['+'] else if keptInForm b then [Char.ofNat b.toNat] else escapeByte b

/-- The bytes that a part of a form writes. -/
def decodeFormBytes (cs : List Char) : List UInt8 :=
  decodeBytes (cs.map fun c => if c = '+' then ' ' else c)

/-- A key and its value as a form writes them. -/
def encodePair (pair : String × String) : String :=
  encodeFormPart pair.1 ++ "=" ++ encodeFormPart pair.2

end PolicyKeeper.Url
