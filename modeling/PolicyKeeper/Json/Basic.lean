import PolicyKeeper.Fields
import PolicyKeeper.Json.Double

/-!
# JSON values

A value keeps the members of an object as they were written: in order, and a name that occurs
twice occurs twice. Whether that is an error is for the reader of the object to say. A table that
is kept as it came (`Json.settle`) lets the last of several members of one name win, at every
depth.

Whole numbers of 64 bits are exact. Any other number is a double-precision number. Documents have
the same shape before they are read and after they are written; what differs is the form that these
other numbers have (`Json ν`).

Some texts are written correctly and yet have no value: a string with half of a surrogate pair, a
number beyond the range of doubles, an array or object inside too many others. Such a text can be
passed over, as a member that nobody asks for, but not be read or kept.
-/

namespace PolicyKeeper

/-- A JSON value, with numbers of some form where they are no whole numbers of 64 bits. -/
inductive Json (ν : Type := Json.Double) where
  /-- What is written correctly and has no value. -/
  | unfit
  | null
  | bool (value : Bool)
  | int (value : Int)
  | real (value : ν)
  | str (value : String)
  | arr (items : List (Json ν))
  | obj (members : List (String × Json ν))
deriving Inhabited, Repr

namespace Json

variable {ν μ : Type}

/-! ## Equality of values can be decided -/

section Equality

variable [DecidableEq ν]

mutual

/-- Compares two values. -/
def decideEq : (a b : Json ν) → Decidable (a = b)
  | .unfit, .unfit => isTrue rfl
  | .null, .null => isTrue rfl
  | .bool x, .bool y => decidable_of_iff (x = y) (by simp)
  | .int x, .int y => decidable_of_iff (x = y) (by simp)
  | .real x, .real y => decidable_of_iff (x = y) (by simp)
  | .str x, .str y => decidable_of_iff (x = y) (by simp)
  | .arr xs, .arr ys =>
    match decideItems xs ys with
    | isTrue h => isTrue (by rw [h])
    | isFalse h => isFalse (by simpa using h)
  | .obj xs, .obj ys =>
    match decideMembers xs ys with
    | isTrue h => isTrue (by rw [h])
    | isFalse h => isFalse (by simpa using h)
  | .unfit, .null | .unfit, .bool _ | .unfit, .int _ | .unfit, .real _ | .unfit, .str _
  | .unfit, .arr _ | .unfit, .obj _ | .null, .unfit | .null, .bool _ | .null, .int _
  | .null, .real _ | .null, .str _ | .null, .arr _ | .null, .obj _ | .bool _, .unfit
  | .bool _, .null | .bool _, .int _ | .bool _, .real _ | .bool _, .str _ | .bool _, .arr _
  | .bool _, .obj _ | .int _, .unfit | .int _, .null | .int _, .bool _ | .int _, .real _
  | .int _, .str _ | .int _, .arr _ | .int _, .obj _ | .real _, .unfit | .real _, .null
  | .real _, .bool _ | .real _, .int _ | .real _, .str _ | .real _, .arr _
  | .real _, .obj _ | .str _, .unfit | .str _, .null | .str _, .bool _ | .str _, .int _
  | .str _, .real _ | .str _, .arr _ | .str _, .obj _ | .arr _, .unfit | .arr _, .null
  | .arr _, .bool _ | .arr _, .int _ | .arr _, .real _ | .arr _, .str _ | .arr _, .obj _
  | .obj _, .unfit | .obj _, .null | .obj _, .bool _ | .obj _, .int _ | .obj _, .real _
  | .obj _, .str _ | .obj _, .arr _ => isFalse (by simp)

/-- Compares the items of two arrays. -/
def decideItems : (xs ys : List (Json ν)) → Decidable (xs = ys)
  | [], [] => isTrue rfl
  | x :: xs, y :: ys =>
    match decideEq x y, decideItems xs ys with
    | isTrue h, isTrue hs => isTrue (by rw [h, hs])
    | isFalse h, _ => isFalse (by simp [h])
    | _, isFalse hs => isFalse (by simp [hs])
  | [], _ :: _ | _ :: _, [] => isFalse (by simp)

/-- Compares the members of two objects. -/
def decideMembers : (xs ys : List (String × Json ν)) → Decidable (xs = ys)
  | [], [] => isTrue rfl
  | (k, x) :: xs, (l, y) :: ys =>
    if hk : k = l then
      match decideEq x y, decideMembers xs ys with
      | isTrue h, isTrue hs => isTrue (by rw [hk, h, hs])
      | isFalse h, _ => isFalse (by simp [h])
      | _, isFalse hs => isFalse (by simp [hs])
    else isFalse (by simp [hk])
  | [], _ :: _ | _ :: _, [] => isFalse (by simp)

end

instance : DecidableEq (Json ν) := decideEq

end Equality

/-! ## Numbers in another form -/

mutual

/-- The value with its numbers in another form. -/
def map (f : ν → μ) : Json ν → Json μ
  | .arr items => .arr (mapItems f items)
  | .obj members => .obj (mapMembers f members)
  | .real x => .real (f x)
  | .unfit => .unfit
  | .null => .null
  | .bool b => .bool b
  | .int n => .int n
  | .str s => .str s

/-- Each item with its numbers in another form. -/
def mapItems (f : ν → μ) : List (Json ν) → List (Json μ)
  | [] => []
  | v :: rest => map f v :: mapItems f rest

/-- The members with the numbers of their values in another form. -/
def mapMembers (f : ν → μ) : List (String × Json ν) → List (String × Json μ)
  | [] => []
  | (k, v) :: rest => (k, map f v) :: mapMembers f rest

end

/-! ## Values that can be kept -/

mutual

/-- Whether a value can be kept: whether all of its parts have values. -/
def isFit : Json ν → Bool
  | .unfit => false
  | .arr items => areFit items
  | .obj members => membersFit members
  | .null | .bool _ | .int _ | .real _ | .str _ => true

/-- Whether all items can be kept. -/
def areFit : List (Json ν) → Bool
  | [] => true
  | v :: rest => isFit v && areFit rest

/-- Whether the values of all members can be kept. -/
def membersFit : List (String × Json ν) → Bool
  | [] => true
  | (_, v) :: rest => isFit v && membersFit rest

end

/-! ## Settling repeated names -/

mutual

/-- The value in which every object has each name once: the last of several members of one name
wins, at the place of the first. -/
def settle : Json ν → Json ν
  | .arr items => .arr (settleItems items)
  | .obj members => .obj (Fields.ofPairs (settleMembers members)).entries
  | .unfit => .unfit
  | .null => .null
  | .bool b => .bool b
  | .int n => .int n
  | .real x => .real x
  | .str s => .str s

/-- Settles each item. -/
def settleItems : List (Json ν) → List (Json ν)
  | [] => []
  | v :: rest => settle v :: settleItems rest

/-- Settles the value of each member. -/
def settleMembers : List (String × Json ν) → List (String × Json ν)
  | [] => []
  | (k, v) :: rest => (k, settle v) :: settleMembers rest

end

/-- Texts as an array. -/
def ofTexts (texts : List String) : Json ν := .arr (texts.map .str)

end Json

end PolicyKeeper
