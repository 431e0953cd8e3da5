import Layering.Policy.Basic

/-!
# Hexagonal architecture

The domain depends on itself and standard types only, ports are interfaces that know no
adapters, and adapters implement ports.
-/

namespace Layering.Policy.Hexagonal

open Source

/-- Names of the domain. -/
def domainOf (o : Options) : List String :=
  o.listOr "domain_namespaces" ["Domain", "Core", "Application"]

/-- Names of ports. -/
def portsOf (o : Options) : List String :=
  o.listOr "port_namespaces" ["Port", "Domain\\Port", "Application\\Port", "Domain\\Contract"]

/-- Names of adapters. -/
def adaptersOf (o : Options) : List String :=
  o.listOr "adapter_namespaces" ["Infrastructure", "Adapter", "Framework", "UI", "Persistence"]

/-- The domain depends on nothing outside it but what is allowed by name. -/
def domain : Policy :=
  { name := "hexagonal.domain"
    description := "Domain must not depend on adapters or code outside the domain"
    check := fun o f _ =>
      let allowed := o.listOr "allowed_external_dependencies" Config.standardTypes
      if inLayer f.space (domainOf o) then
        forbid "hexagonal.domain" "Domain should not depend on adapters or external code." .critical
          (fun dep => (inLayer dep (adaptersOf o) || !inLayer dep (domainOf o)) &&
            !allowed.any (isCalled dep)) f
      else none }

/-- Ports are interfaces and depend on no adapters. -/
def port : Policy :=
  { name := "hexagonal.port"
    description := "Ports must be interfaces and must not depend on adapters"
    check := fun o f _ =>
      if !inLayer f.space (portsOf o) then none
      else if !f.isInterface then
        some
          { path := f.path
            message := "Ports in Hexagonal Architecture should be interfaces"
            rule := "hexagonal.port"
            severity := .error
            details := [("namespace", .string f.space)] }
      else
        forbid "hexagonal.port" "Ports should not depend on adapters." .error
          (fun dep => inLayer dep (adaptersOf o)) f }

/-- Adapters implement a port, unless they need not. -/
def adapter : Policy :=
  { name := "hexagonal.adapter"
    description := "Adapters should implement a port interface from the domain"
    check := fun o f _ =>
      if inLayer f.space (adaptersOf o) && o.flagOr "adapters_should_implement_ports" true &&
          f.implementsFrom (portsOf o) != some true then
        some
          { path := f.path
            message := "Adapter '" ++ f.typeName ++
              "' should implement a port/interface from the domain"
            rule := "hexagonal.adapter"
            severity := .warning
            details := [("class_name", .string f.typeName), ("namespace", .string f.space)] }
      else none }

end Layering.Policy.Hexagonal
