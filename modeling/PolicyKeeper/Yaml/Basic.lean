/-!
# YAML nodes

A node is null, a truth value, a number, a text, a sequence or a mapping. Numbers are kept as text,
since nothing is ever computed with them; a fraction of a single zero is dropped from a number, and
the numbers that are infinite or none at all have one spelling each. A mapping keeps its entries in
order, and a key that occurs twice occurs twice.
-/

namespace PolicyKeeper

/-- A YAML node. -/
inductive Yaml where
  | null
  | bool (value : Bool)
  | int (text : String)
  | float (text : String)
  | str (text : String)
  | seq (items : List Yaml)
  | map (entries : List (Yaml × Yaml))
deriving Inhabited, Repr

namespace Yaml

/-- Whether two keys of a mapping are the same scalar. -/
def sameScalar : Yaml → Yaml → Bool
  | .null, .null => true
  | .bool a, .bool b => a == b
  | .int a, .int b | .float a, .float b | .str a, .str b => a == b
  | _, _ => false

/-- The entries of a mapping, of which the last of each key counts. -/
def settled : List (Yaml × Yaml) → List (Yaml × Yaml)
  | [] => []
  | (key, value) :: rest =>
    if rest.any fun e => e.1.sameScalar key then settled rest else (key, value) :: settled rest

end Yaml

end PolicyKeeper
