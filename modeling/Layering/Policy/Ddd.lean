import Layering.Policy.Basic

/-!
# Domain-driven design

The domain layer knows nothing of the layers around it, the application layer reaches the
infrastructure through interfaces only, and infrastructure classes that implement interfaces
implement one of the domain.
-/

namespace Layering.Policy.Ddd

open Source

/-- Names of the domain layer. -/
def domainOf (o : Options) : List String := o.listOr "domain_namespaces" ["Domain", "Model"]

/-- Names of the infrastructure layer. -/
def infrastructureOf (o : Options) : List String :=
  o.listOr "infrastructure_namespaces" ["Infrastructure", "Infra"]

/-- The domain layer depends on neither application nor infrastructure. -/
def domainLayer : Policy :=
  { name := "ddd.domain_layer"
    description := "Domain layer must not depend on application or infrastructure layers"
    check := fun o f _ =>
      if inLayer f.space (domainOf o) then
        forbid "ddd.domain_layer"
          "Domain layer should not depend on application or infrastructure layers." .error
          (fun dep => inLayer dep (o.listOr "application_namespaces" ["Application"]) ||
            inLayer dep (infrastructureOf o)) f
      else none }

/-- The application layer does not depend on infrastructure, unless it may. -/
def applicationLayer : Policy :=
  { name := "ddd.application_layer"
    description := "Application layer must not depend directly on the infrastructure layer"
    check := fun o f _ =>
      if inLayer f.space (o.listOr "application_namespaces" ["Application", "UseCase"]) &&
          !o.flagOr "can_use_infrastructure" false then
        forbid "ddd.application_layer"
          "Application layer should not depend directly on infrastructure layer but use interfaces."
          .warning (fun dep => inLayer dep (infrastructureOf o)) f
      else none }

/-- Infrastructure with an implements clause implements an interface of the domain. -/
def infrastructureLayer : Policy :=
  { name := "ddd.infrastructure_layer"
    description := "Infrastructure components should implement at least one domain interface"
    check := fun o f _ =>
      if inLayer f.space (infrastructureOf o) && f.implementsFrom (domainOf o) == some false &&
          o.flagOr "must_implement_domain_interfaces" true then
        some
          { path := f.path
            message := "Infrastructure component '" ++ f.typeName ++
              "' should implement at least one domain interface for proper dependency inversion"
            rule := "ddd.infrastructure_layer"
            severity := .info
            details :=
              [("class_name", .string f.typeName),
                ("implemented_interfaces", Json.strings (f.interfaces.getD []))] }
      else none }

end Layering.Policy.Ddd
