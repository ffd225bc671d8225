import PolicyKeeper.Yaml.Scalar

/-!
# YAML nodes and documents

A text is one document or several, with three dashes in front of each but perhaps the first. Outside
brackets the structure of a document is told by indentation: the entries of a mapping and the items
of a sequence start at one column, and what belongs to them is further right. A sequence may also
start at the column of the key that it belongs to. A node that is not there is null.
-/

namespace PolicyKeeper.Yaml

/-- Where a node stands. -/
inductive Place where
  /-- At the start of a document. -/
  | top
  /-- Behind the colon of an entry that starts at a column. -/
  | value (column : Nat)
  /-- Behind the dash of an item that starts at a column. -/
  | item (column : Nat)
  /-- In brackets that belong to something at a column. -/
  | brackets (column : Nat)

namespace Place

/-- The column that the lines of the node have to be right of. -/
def column : Place → Nat
  | .top => 0
  | .value c | .item c | .brackets c => c

/-- Whether the node stands in brackets. -/
def inBrackets : Place → Bool
  | .brackets _ => true
  | _ => false

/-- The place of the value of an entry at a column. -/
def valueAt (inBrackets : Bool) (column : Nat) : Place :=
  if inBrackets then .brackets column else .value column

/-- Takes what stands in front of a sequence or a mapping, and says at which column it starts: at
`least` or further right if it starts on a new line. -/
def begin (least : Nat) : Place → Scan Nat
  | .top => pure 0
  | .brackets c => pure c
  | .value _ => onNewLine
  | .item c => onNewLine <|> do return c + 1 + (← blanks)
where
  /-- Goes to the first character of a line with content. -/
  onNewLine : Scan Nat := do
    let _ ← gap
    let c ← blanks
    if c < least then failure
    return c

end Place

/-- Takes the colon between a key and its value, with the space behind it. -/
def colon : Scan Unit := do
  Scan.exactly ": " <|> do
    Scan.exactly ":"
    Scan.followedBy fun cs => cs.head?.any isBreak

/-- Takes blanks and line breaks, as they may stand inside brackets. -/
def space : Scan Unit := do
  let _ ← Scan.run fun c => isGap c || isBreak c

/-- Takes elements with commas between them, and perhaps one behind the last, and the bracket that
closes them. There are at most as many as the given number. -/
def listed {α : Type} (close : String) (element : Scan α) : (most : Nat) → Scan (List α)
  | 0 => do
    space
    Scan.exactly close
    return []
  | most + 1 => do
    space
    (do Scan.exactly close; return []) <|> do
      let first ← element
      (do Scan.exactly ","; return first :: (← listed close element most)) <|> do
        space
        Scan.exactly close
        return [first]

/-- Goes to a column of the next line with content, which starts there or further right. -/
def toColumn (column : Nat) : Scan Unit := do
  let _ ← gap
  Scan.count column isGap

mutual

/-- Takes a node. `fuel` bounds the depth. -/
def node : (fuel : Nat) → Place → Scan Yaml
  | 0, _ => failure
  | fuel + 1, place => sequence fuel place <|> mapping fuel place <|>
    term fuel place.column (plain place.inBrackets place.column) <|> pure .null

/-- Takes a sequence that is told by dashes. -/
def sequence : (fuel : Nat) → Place → Scan Yaml
  | 0, _ => failure
  | fuel + 1, place => do
    let least :=
      match place with
      | .value c => c
      | p => p.column + 1
    let column ← place.begin least
    let item : Scan Yaml := do
      Scan.exactly "-"
      bound
      node fuel (if place.inBrackets then .brackets column else .item column)
    let first ← item
    let others ← Scan.many (do toColumn column; item)
    return .seq (first :: others)

/-- Takes a mapping that is told by colons. -/
def mapping : (fuel : Nat) → Place → Scan Yaml
  | 0, _ => failure
  | fuel + 1, place => do
    let column ← place.begin (place.column + 1)
    let entry : Scan (Yaml × Yaml) := do
      let key ← term fuel column (plainKey place.inBrackets) <|> pure .null
      colon
      return (key, ← node fuel (Place.valueAt place.inBrackets column))
    let first ← entry
    let others ← Scan.many (do toColumn column; entry)
    return .map (first :: others)

/-- Takes a scalar, or a sequence or mapping in brackets. A gap and blanks may stand in front. How
plain text is taken depends on what it is for. -/
def term : (fuel : Nat) → (column : Nat) → (text : Scan Yaml) → Scan Yaml
  | 0, _, _ => failure
  | fuel + 1, column, text => do
    maybeGap
    let _ ← blanks
    number <|> word <|> quoted <|> bracketed fuel column <|> do
      Scan.followedBy fun cs => !startsOther cs
      text

/-- Takes a sequence or mapping in brackets. -/
def bracketed : (fuel : Nat) → (column : Nat) → Scan Yaml
  | 0, _ => failure
  | fuel + 1, column =>
    (do
      Scan.exactly "["
      let element := node fuel (.brackets column)
      return .seq (← listed "]" element (← get).length)) <|>
    (do
      Scan.exactly "\x7b"
      let element : Scan (Yaml × Yaml) := do
        let key ← term fuel column (plainKey true) <|> pure .null
        colon
        return (key, ← node fuel (.brackets column))
      return .map (← listed "\x7d" element (← get).length))

end

/-! ## Documents -/

/-- Takes a document and the dots that may end it. -/
def document : Scan Yaml := do
  let root ← node (4 * (← get).length + 4) .top
  maybeGap
  let _ ← Scan.maybe (Scan.exactly "...")
  return root

/-- Takes the dashes in front of a document. -/
def divider : Scan Unit := do
  Scan.exactly "---"
  maybeGap

/-- Takes documents up to the end of the text. -/
def documents : Scan (List Yaml) := do
  let _ ← Scan.many emptyLine
  let _ ← Scan.maybe divider
  let first ← document
  let others ← Scan.many (do maybeGap; divider; document)
  maybeGap
  Scan.followedBy List.isEmpty
  return first :: others

/-- The documents of a text. -/
def parse? (text : String) : Option (List Yaml) := documents.run' text.toList

end PolicyKeeper.Yaml
