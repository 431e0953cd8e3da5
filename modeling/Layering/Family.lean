/-!
# Rule families

The four families of rules in the order they run, each with its rules in the order they are
evaluated.
-/

namespace Layering

/-- A family of rules. -/
inductive Family where
  | ddd
  | clean
  | hexagonal
  | custom
deriving DecidableEq, Repr, Inhabited

namespace Family

/-- All families in the order they run. -/
def all : List Family := [.ddd, .clean, .hexagonal, .custom]

/-- The family's key in configurations and in the names of its rules. -/
def key : Family → String
  | .ddd => "ddd"
  | .clean => "clean"
  | .hexagonal => "hexagonal"
  | .custom => "custom"

def title : Family → String
  | .ddd => "Domain-Driven Design"
  | .clean => "Clean Architecture"
  | .hexagonal => "Hexagonal Architecture"
  | .custom => "Custom Rules"

/-- The built-in rules of the family in the order they are evaluated. -/
def rules : Family → List String
  | .ddd => ["ddd.domain_layer", "ddd.application_layer", "ddd.infrastructure_layer"]
  | .clean => ["clean.entity_layer", "clean.use_case_layer", "clean.controller_layer"]
  | .hexagonal => ["hexagonal.domain", "hexagonal.port", "hexagonal.adapter"]
  | .custom => ["custom.namespace_dependency", "custom.naming_convention"]

/-- The family with a key. -/
def ofKey? (key : String) : Option Family := all.find? (·.key == key)

end Family

end Layering
