/-!
# Glob patterns

A resource value of a stored policy is a pattern. `?` stands for any one character and `*` for any
sequence of characters, slashes included; `[ab]`, `[a-z]` and `[!ab]` stand for one character of a
set, or outside it. `**` stands for whole directories, so it has to be a path component of its own:
`**` with a slash behind it matches nothing, or anything up to and with a slash, and at the end of
the pattern it matches any rest.

A text with an empty or unclosed set, with `**` that is not a component, or with three stars in a
row is no pattern.

`matchParts` says what a pattern matches. Trying out every length for every star takes too long, so
the answer is found from the end of the pattern (`matchAll`): which suffixes of the text a part and
all after it match is told by which suffixes those after it match.
-/

namespace PolicyKeeper.Text.Glob

/-- Some characters: a single one is a range of its own. -/
structure CharRange where
  first : Char
  last : Char
deriving DecidableEq, Repr

/-- A part of a pattern. -/
inductive Part where
  | char (c : Char)
  | anyChar
  /-- Any sequence. -/
  | star
  /-- Whole directories. -/
  | directories
  /-- One character of a set, or outside it. -/
  | oneOf (negated : Bool) (set : List CharRange)
deriving DecidableEq, Repr

/-! ## Reading a pattern -/

/-- The ranges that the inside of a set writes. A minus between two characters makes a range. -/
def rangesOf : List Char → List CharRange
  | a :: '-' :: b :: rest => ⟨a, b⟩ :: rangesOf rest
  | a :: rest => ⟨a, a⟩ :: rangesOf rest
  | [] => []

/-- Where in a pattern the reader is. -/
inductive Mode where
  /-- Outside sets; `atStart` says whether a path component starts here. -/
  | outside (atStart : Bool)
  /-- Inside a set, after some of its characters, the last one first. -/
  | inside (negated : Bool) (chars : List Char)

/-- Reads a pattern from where the reader is. The first character of a set belongs to it, even if it
is a closing bracket. -/
def readParts? : Mode → List Char → Option (List Part)
  | .outside _, [] => some []
  | .inside .., [] => none
  | .inside negated chars, c :: rest =>
    if c = ']' then
      (readParts? (.outside false) rest).map (.oneOf negated (rangesOf chars.reverse) :: ·)
    else readParts? (.inside negated (c :: chars)) rest
  | .outside atStart, c :: rest =>
    if c = '?' then (readParts? (.outside false) rest).map (.anyChar :: ·)
    else if c = '*' then
      match rest with
      | '*' :: after =>
        match after with
        | [] => if atStart then some [.directories] else none
        | d :: rest =>
          if atStart ∧ d = '/' then (readParts? (.outside true) rest).map (.directories :: ·)
          else none
      | rest => (readParts? (.outside false) rest).map (.star :: ·)
    else if c = '[' then
      match rest with
      | [] => none
      | '!' :: after =>
        match after with
        | [] => none
        | d :: rest => readParts? (.inside true [d]) rest
      | d :: rest => readParts? (.inside false [d]) rest
    else (readParts? (.outside (c == '/')) rest).map (.char c :: ·)

/-- The parts of a pattern. -/
def parse? (pattern : String) : Option (List Part) := readParts? (.outside true) pattern.toList

/-! ## Matching -/

/-- Whether a test holds of some rest of the text. -/
def someRest (test : List Char → Bool) : List Char → Bool
  | [] => test []
  | c :: rest => test (c :: rest) || someRest test rest

/-- Whether a test holds of the text, of a rest of it after a slash, or of its end. -/
def someRestAfterSlash (test : List Char → Bool) : List Char → Bool
  | [] => test []
  | c :: rest => (c == '/' && test rest) || someRestAfterSlash test rest

/-- Whether a character is in a set. -/
def inSet (set : List CharRange) (c : Char) : Bool :=
  set.any fun r => r.first ≤ c && c ≤ r.last

/-- Whether the parts match the whole text. -/
def matchParts : List Part → List Char → Bool
  | [], cs => cs.isEmpty
  | .star :: parts, cs => someRest (matchParts parts) cs
  | .directories :: parts, cs => matchParts parts cs || someRestAfterSlash (matchParts parts) cs
  | .char c :: parts, d :: cs => c == d && matchParts parts cs
  | .anyChar :: parts, _ :: cs => matchParts parts cs
  | .oneOf negated set :: parts, d :: cs => inSet set d != negated && matchParts parts cs
  | .char _ :: _, [] | .anyChar :: _, [] | .oneOf .. :: _, [] => false

/-! ## Matching all suffixes at once -/

/-- The answer for the longest of some suffixes. -/
def first : List Bool → Bool
  | [] => false
  | b :: _ => b

@[simp] theorem first_nil : first [] = false := rfl

@[simp] theorem first_cons (b : Bool) (found : List Bool) : first (b :: found) = b := rfl

/-- For each suffix of a text, whether it starts with a character that passes and a suffix follows
that has been found to match. -/
def afterChar (test : Char → Bool) : List Char → List Bool → List Bool
  | c :: cs, _ :: found => (test c && first found) :: afterChar test cs found
  | _, _ => [false]

/-- For each suffix, whether it or a later one has been found to match. -/
def afterStar : List Bool → List Bool
  | [] => []
  | b :: found =>
    let later := afterStar found
    (b || first later) :: later

/-- For each suffix of a text, whether one after a slash in it, or its end, has been found to
match. -/
def afterSlash : List Char → List Bool → List Bool
  | c :: cs, _ :: found =>
    let later := afterSlash cs found
    (c == '/' && first found || first later) :: later
  | _, found => found

/-- For each suffix of a text, the longest first, whether the parts match it. -/
def matchAll : List Part → List Char → List Bool
  | [], cs => cs.map (fun _ => false) ++ [true]
  | .star :: parts, cs => afterStar (matchAll parts cs)
  | .directories :: parts, cs =>
    let found := matchAll parts cs
    List.zipWith (· || ·) found (afterSlash cs found)
  | .char c :: parts, cs => afterChar (c == ·) cs (matchAll parts cs)
  | .anyChar :: parts, cs => afterChar (fun _ => true) cs (matchAll parts cs)
  | .oneOf negated set :: parts, cs =>
    afterChar (inSet set · != negated) cs (matchAll parts cs)

theorem matchAll_nil (parts : List Part) : matchAll parts [] = [matchParts parts []] := by
  induction parts with
  | nil => rfl
  | cons part parts ih =>
    cases part <;>
      simp [matchAll, matchParts, ih, afterStar, afterSlash, afterChar, someRest,
        someRestAfterSlash]

/-- The first answer is that for the whole text, and those after it are for what follows its first
character. -/
theorem matchAll_cons (parts : List Part) (c : Char) (cs : List Char) :
    matchAll parts (c :: cs) = matchParts parts (c :: cs) :: matchAll parts cs := by
  induction parts generalizing c cs with
  | nil => rfl
  | cons part parts ih =>
    have first_matchAll (cs : List Char) : first (matchAll parts cs) = matchParts parts cs := by
      cases cs with
      | nil => simp [matchAll_nil]
      | cons c cs => simp [ih]
    cases part with
    | char _ | anyChar | oneOf _ _ => simp [matchAll, matchParts, ih, afterChar, first_matchAll]
    | star =>
      have later (cs : List Char) :
          first (afterStar (matchAll parts cs)) = someRest (matchParts parts) cs := by
        induction cs with
        | nil => simp [matchAll_nil, afterStar, someRest]
        | cons d cs ihs => simp [ih, afterStar, someRest, ihs]
      simp [matchAll, matchParts, ih, afterStar, someRest, later]
    | directories =>
      have later (cs : List Char) :
          first (afterSlash cs (matchAll parts cs)) =
            someRestAfterSlash (matchParts parts) cs := by
        induction cs with
        | nil => simp [matchAll_nil, afterSlash, someRestAfterSlash]
        | cons d cs ihs => simp [ih, afterSlash, someRestAfterSlash, ihs, first_matchAll]
      simp [matchAll, matchParts, ih, afterSlash, someRestAfterSlash, later, first_matchAll]

/-- Whether a pattern matches a text. -/
def isMatch (parts : List Part) (cs : List Char) : Bool := first (matchAll parts cs)

@[simp]
theorem isMatch_eq_matchParts (parts : List Part) (cs : List Char) :
    isMatch parts cs = matchParts parts cs := by
  cases cs with
  | nil => simp [isMatch, matchAll_nil]
  | cons c cs => simp [isMatch, matchAll_cons]

/-- Whether a stored value matches a searched one: as a pattern, or literally if it is no
pattern. -/
def matchesValue (stored searched : String) : Bool :=
  match parse? stored with
  | some parts => isMatch parts searched.toList
  | none => stored == searched

example : matchesValue "db*" "db1" = true := by decide +kernel
example : matchesValue "a/**/c" "a/b/c" = true := by decide +kernel
example : matchesValue "a**" "a**" = true := by decide +kernel
example : matchesValue "[!a-c]x" "dx" = true := by decide +kernel

end PolicyKeeper.Text.Glob
