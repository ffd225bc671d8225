import PolicyKeeper.Fault
import PolicyKeeper.Text.Split

/-!
# Catalogue objects

An object is told by its full name, the names that lead to it with dots between them, and by its
kind. `CatalogObject.ofName?` accepts a full name exactly when it has as many names as the kind has
levels and none of them is blank. An object that arrives in a document is taken as it is, so its
full name may be anything.
-/

namespace PolicyKeeper

/-- A thing in the catalogue. -/
structure CatalogObject where
  fullName : String
  kind : ObjectKind
deriving DecidableEq, Inhabited, Repr

namespace CatalogObject

/-- The object of the given full name and kind. A blank name is reported before a wrong number of
names. -/
def ofName? (fullName : String) (kind : ObjectKind) : Except Fault CatalogObject :=
  let names := Text.split '.' fullName
  if names.any Text.isAllBlank then .error (.invalidObject (.emptyName fullName))
  else if names.length ≠ kind.levels then
    .error (.invalidObject (.levelCount fullName names.length kind))
  else .ok ⟨fullName, kind⟩

/-- The names that lead to the object, outermost first. -/
def names (o : CatalogObject) : List String := Text.split '.' o.fullName

/-- The object's own name. -/
def name (o : CatalogObject) : String := Text.afterLast '.' o.fullName

/-- The full name of the object around it. -/
def parent? (o : CatalogObject) : Option String := Text.beforeLast? '.' o.fullName

/-- The object in messages, such as `shop.sales (SCHEMA)`. -/
def describe (o : CatalogObject) : String := s!"{o.fullName} ({o.kind.word})"

/-- The order of objects: by full name, then by kind. -/
def le (a b : CatalogObject) : Bool :=
  a.fullName < b.fullName || (a.fullName == b.fullName && a.kind.rank ≤ b.kind.rank)

end CatalogObject

end PolicyKeeper
