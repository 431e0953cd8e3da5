import Layering.Policy.Basic

/-!
# Clean architecture

Dependencies point inwards: from controllers to use cases to entities.
-/

namespace Layering.Policy.Clean

open Source

/-- The names of the four layers. -/
structure Layers where
  entity : List String
  useCase : List String
  controller : List String
  framework : List String

/-- The layers as options name them. -/
def Layers.ofOptions (o : Options) : Layers :=
  { entity := o.listOr "entity_namespaces"
      ["Entity", "Domain\\Entity", "Domain\\Model", "Core\\Entity"]
    useCase := o.listOr "use_case_namespaces"
      ["UseCase", "Application", "Domain\\UseCase", "Core\\UseCase"]
    controller := o.listOr "controller_namespaces" ["Controller", "Interfaces", "Presentation", "UI"]
    framework := o.listOr "framework_namespaces"
      ["Framework", "Infrastructure", "External", "Persistence"] }

/-- Entities depend on no other layer. -/
def entityLayer : Policy :=
  { name := "clean.entity_layer"
    description := "Entities must not depend on use cases, controllers or frameworks"
    check := fun o f _ =>
      let layers := Layers.ofOptions o
      if inLayer f.space layers.entity then
        forbid "clean.entity_layer"
          "Entity layer should not depend on any other layer (use cases, controllers, frameworks)."
          .critical
          (fun dep => inLayer dep layers.useCase || inLayer dep layers.controller ||
            inLayer dep layers.framework) f
      else none }

/-- Use cases depend on neither controllers nor frameworks. -/
def useCaseLayer : Policy :=
  { name := "clean.use_case_layer"
    description := "Use cases must not depend on controllers or frameworks"
    check := fun o f _ =>
      let layers := Layers.ofOptions o
      if inLayer f.space layers.useCase then
        forbid "clean.use_case_layer"
          "Use Case layer should not depend on outer layers (controllers, frameworks)."
          .error (fun dep => inLayer dep layers.controller || inLayer dep layers.framework) f
      else none }

/-- A controller that depends on no use case. -/
def withoutUseCase (f : Source) : Violation :=
  { path := f.path
    message := "Controller should depend on use cases rather than directly on entities"
    rule := "clean.controller_layer"
    severity := .info
    details := [("all_dependencies", Json.strings f.dependencies.toList)] }

/-- Controllers depend on use cases and not on frameworks; the latter weighs more. -/
def controllerLayer : Policy :=
  { name := "clean.controller_layer"
    description := "Controllers should depend on use cases and not on frameworks"
    check := fun o f _ =>
      let layers := Layers.ofOptions o
      if inLayer f.space layers.controller then
        match forbid "clean.controller_layer"
            "Controller should not depend on framework/infrastructure layer." .warning
            (fun dep => inLayer dep layers.framework) f with
        | some v => some v
        | none =>
          if f.dependencies.toList.any (fun dep => inLayer dep layers.useCase) ||
              !o.flagOr "should_depend_on_use_cases" true then none
          else some (withoutUseCase f)
      else none }

end Layering.Policy.Clean
