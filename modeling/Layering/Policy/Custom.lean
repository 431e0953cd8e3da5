import Layering.Naming.Rules
import Layering.Policy.Basic

/-!
# Policies that live from their options

What a namespace may depend on and how its types are named, both given by prefix and looked up
in the order of the options.
-/

namespace Layering.Policy.Custom

open Source Yaml

/-- Whether a name starts with a text. -/
def startsWith (name start : String) : Bool := start.toList.isPrefixOf name.toList

/-- The dependencies allowed below the first prefix that the namespace starts with. -/
def allowedIn (space : String) : Entries → Option (List String)
  | [] => none
  | (key, value) :: rest =>
    match Options.scalarText? key with
    | none => allowedIn space rest
    | some start =>
      if startsWith space start then
        some (match value with
          | .sequence items => items.filterMap Options.scalarText?
          | other => (Options.scalarText? other).toList)
      else allowedIn space rest

/-- A namespace depends on what is allowed below its prefix, and on what is allowed everywhere. -/
def namespaceDependency : Policy :=
  { name := "custom.namespace_dependency"
    description := "Namespaces may only depend on their configured allow-list"
    check := fun o f _ =>
      match (o.mapping? "dependency_rules").bind (allowedIn f.space) with
      | none => none
      | some allowed =>
        let everywhere := o.listOr "global_allowed_dependencies" Config.standardTypes
        match f.dependencies.matching fun dep =>
            !allowed.any (isWithin dep) && !everywhere.any (isCalled dep) with
        | [] => none
        | forbidden => some
          { path := f.path
            message := "Namespace '" ++ f.space ++ "' has forbidden dependencies: " ++
              ", ".intercalate forbidden
            rule := "custom.namespace_dependency"
            severity := .warning
            details :=
              [("namespace", .string f.space),
                ("forbidden_dependencies", Json.strings forbidden),
                ("allowed_dependencies", Json.strings allowed),
                ("all_dependencies", Json.strings f.dependencies.toList)] } }

/-- The requirements on the names of types in a namespace, in order. -/
def requirementsFor (space : String) (scopes : List Naming.Scope) : List Naming.Requirement :=
  (scopes.filter fun s => startsWith space s.start).flatMap (·.requirements)

/-- A type whose name does not meet a requirement. -/
def misnamed (f : Source) (r : Naming.Requirement) : Violation :=
  { path := f.path
    message := "Class '" ++ f.typeName ++ "' in namespace '" ++ f.space ++
      "' does not follow naming convention: " ++ r.description
    rule := "custom.naming_convention"
    severity := .info
    details :=
      [("class_name", .string f.typeName), ("namespace", .string f.space),
        ("pattern", .string r.pattern), ("description", .string r.description)] }

/-- Type names meet all requirements of their namespace; the first one they fail is reported. -/
def namingConvention : Policy :=
  { name := "custom.naming_convention"
    description := "Class names under a namespace prefix must follow a naming pattern"
    validate := fun o => match (Naming.ofOptions o).2 with
      | [] => .ok ()
      | faults => .error (.invalidRule "custom.naming_convention" (.naming faults))
    check := fun o f _ =>
      if f.typeName.isEmpty then none
      else
        ((requirementsFor f.space (Naming.ofOptions o).1).find? fun r =>
          !r.regex.isMatch f.typeName).map (misnamed f) }

end Layering.Policy.Custom
