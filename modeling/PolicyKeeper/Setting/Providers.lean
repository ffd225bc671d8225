import PolicyKeeper.Setting.Config
import PolicyKeeper.Failure

/-!
# Providers

Catalogues of different providers are served by different makers. The maker that is registered for
the provider of a configuration builds what serves the catalogue; a later registration for one
provider takes the place of the earlier one.
-/

namespace PolicyKeeper

/-- What builds something from a configuration. -/
abbrev Maker (α : Type) := Config → Except Failure α

/-- The makers by the providers they are registered for. -/
structure Providers (α : Type) where
  makers : Fields (Maker α) := Fields.empty

namespace Providers

variable {α : Type}

/-- Registers a maker for a provider. -/
def register (ps : Providers α) (provider : String) (maker : Maker α) : Providers α :=
  ⟨ps.makers.put provider maker⟩

/-- The providers, in order of name. -/
def names (ps : Providers α) : List String := ps.makers.keys.mergeSort fun a b => !(b < a)

/-- Builds what serves the catalogue of a configuration. -/
def create (ps : Providers α) (c : Config) : Except Failure α :=
  match ps.makers.get? c.provider with
  | none => .error (.ofFault (.badSetting (.unknownProvider c.provider ps.names)))
  | some maker => Failure.within (.creatingKeeper c.provider) (maker c)

end Providers

end PolicyKeeper
