import Layering.Source.Declaration
import Layering.Source.Dependencies

/-!
# Source files

A source file with the facts every rule works on, extracted once from its text.
-/

namespace Layering

open Text

/-- A source file and its structural facts. -/
structure Source where
  path : String
  content : String
  /-- The declared namespace, empty when absent. -/
  space : String
  /-- The declared class, interface or trait, empty when absent. -/
  typeName : String
  dependencies : Source.Dependencies
  imports : List Source.Import

namespace Source

/-- Extract the facts of a text. -/
def ofContent (path content : String) : Source :=
  let text := content.toList
  { path, content
    space := namespaceOf text
    typeName := typeNameOf text
    dependencies := dependenciesOf text
    imports := importsOf text }

/-- Namespace and type name as one name. -/
def qualifiedName (f : Source) : String := qualify f.space f.typeName

def isInterface (f : Source) : Bool := declaresInterface f.content.toList

/-- The entries of the declared class's implements clause. -/
def interfaces (f : Source) : Option (List String) := interfacesOf f.content.toList f.typeName

/-- The full name an implements entry refers to: an entry with a backslash is one already, any
other is looked up in the first import that brings it into scope. -/
def resolve (f : Source) (entry : String) : Option String :=
  if entry.toList.contains '\\' then some entry
  else (f.imports.find? (·.brings entry)).map (·.path)

/-- Whether an entry of the implements clause resolves into a layer; nothing without a clause. -/
def implementsFrom (f : Source) (layer : List String) : Option Bool :=
  f.interfaces.map fun entries => entries.any fun entry =>
    match f.resolve entry with
    | some name => inLayer name layer
    | none => false

end Source

end Layering
