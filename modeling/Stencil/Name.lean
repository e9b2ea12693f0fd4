import Stencil.Text.Pieces

/-!
# Qualified names

A declaration is named by its package and its simple name, joined by a dot.
The default package has the empty name and adds no dot.
-/

namespace Stencil

/-- The name of a declaration among all declarations of a graph. -/
abbrev QualifiedName := String

/-- The qualified name of a declaration of a package. -/
def qualify (package simpleName : String) : QualifiedName :=
  if package = "" then simpleName else package ++ "." ++ simpleName

/-- The package and the simple name that a qualified name shows: what stands
before and after its last dot.  A name without a dot lies in the default
package. -/
def splitQualified (name : QualifiedName) : String × String :=
  match Text.splitLast? '.' name.toList with
  | some (package, simpleName) => (String.ofList package, String.ofList simpleName)
  | none => ("", name)

end Stencil
