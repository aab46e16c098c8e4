/-
# Registries of provider types

Which provider types there are, and how an instance of each is made from its
settings. Nothing is registered by itself: whoever starts the engine decides which
types it knows.
-/

import DnsReconcile.Settings.Provider

namespace DnsReconcile

/-- How to make an instance from its settings. -/
abbrev Factory (ι : Type) := ProviderSettings → Except Error ι

/-- The known provider types, whose instances are of a type `ι`. -/
structure Registry (ι : Type) where
  factories : Dict (Factory ι) := Dict.empty

namespace Registry

variable {ι : Type}

/-- Make a type known, in place of an earlier one of that name. -/
def register (registry : Registry ι) (name : String) (factory : Factory ι) : Registry ι :=
  ⟨registry.factories.insert name factory⟩

/-- The names of the known types in order. -/
def names (registry : Registry ι) : List String :=
  registry.factories.keys

/-- Whether a type is known. -/
def knows (registry : Registry ι) (name : String) : Bool :=
  registry.factories.contains name

/-- Make the instance that settings describe. -/
def build (registry : Registry ι) (settings : ProviderSettings) : Except Error ι :=
  match registry.factories.get? settings.typeName with
  | some factory => factory settings
  | none => .error (.config ("Unknown provider type: " ++ settings.typeName))

/-- Make every named instance, in order. The first that cannot be made is reported
with its name. -/
def buildAll (registry : Registry ι) (settings : Dict ProviderSettings) :
    Except Error (Dict ι) := do
  let built ← settings.entries.mapM fun (name, block) =>
    match registry.build block with
    | .ok made => .ok (name, made)
    | .error error => .error (.config ("provider '" ++ name ++ "': " ++ error.message))
  return Dict.ofList built

end Registry

end DnsReconcile
