import Layering.Policy.Clean
import Layering.Policy.Custom
import Layering.Policy.Ddd
import Layering.Policy.Hexagonal

/-!
# Registries

A registry holds policies under ids, from which rules are made.
-/

namespace Layering

/-- Policies under ids. -/
structure Registry where
  policies : Table Policy := .empty

namespace Registry

def empty : Registry := {}

/-- Put a policy under an id, in place of what was there. -/
def register (r : Registry) (id : String) (p : Policy) : Registry :=
  ⟨r.policies.insert id p⟩

/-- The built-in policies. -/
def builtinPolicies : List Policy :=
  [Policy.Ddd.domainLayer, Policy.Ddd.applicationLayer, Policy.Ddd.infrastructureLayer,
   Policy.Clean.entityLayer, Policy.Clean.useCaseLayer, Policy.Clean.controllerLayer,
   Policy.Hexagonal.domain, Policy.Hexagonal.port, Policy.Hexagonal.adapter,
   Policy.Custom.namespaceDependency, Policy.Custom.namingConvention]

/-- The registry of the built-in policies under their names. -/
def builtin : Registry := builtinPolicies.foldl (fun r p => r.register p.name p) empty

def contains (r : Registry) (id : String) : Bool := r.policies.contains id

/-- The ids in increasing order. -/
def ids (r : Registry) : List String := r.policies.keys

/-- A rule without options. -/
def instantiate (r : Registry) (id : String) : Except Error Rule :=
  match r.policies.get? id with
  | some p => .ok { policy := p }
  | none => .error (.ruleNotFound id)

/-- An error of a rule's own check: about the rule itself it stays, any other makes the rule
invalid. -/
def refusal (id : String) : Error → Error
  | .invalidRule name fault => .invalidRule name fault
  | other => .invalidRule id (.refused other.message)

/-- A rule with options that has a proper name and accepts them. -/
def create (r : Registry) (id : String) (options : Options) : Except Error Rule := do
  let rule ← r.instantiate id
  if (Policy.splitName? rule.name).isNone then .error (.invalidRule id (.name rule.name))
  let rule := rule.configure options
  match rule.validate with
  | .ok () => .ok rule
  | .error e => .error (refusal id e)

end Registry

end Layering
