import Stencil.Literal
import Stencil.Template

/-!
# Implementations as source text

An implementation is a final class with one method for every member that asks
for one and has no body.  Its text depends on nothing but the plan.
-/

namespace Stencil

/-- A method of an implementation: the member and the names that it returns. -/
structure MethodPlan where
  member : EligibleMember
  names : List String
  deriving DecidableEq, Repr

/-- What the text of an implementation is made from. -/
structure ImplementationPlan where
  package : String
  templateName : String
  implName : String
  methods : List MethodPlan
  deriving DecidableEq, Repr

/-- A name as a literal on a line of its own. -/
def literalLine (escapeLiterals : Bool) (name : String) : String :=
  "\n        \"" ++ (if escapeLiterals then Literal.escape name else name) ++ "\""

/-- The text of a method. -/
def MethodPlan.render (escapeLiterals : Bool) (method : MethodPlan) : String :=
  "  public " ++ method.member.returnType.text ++ " " ++ method.member.name ++ "() \x7b\n" ++
    "    return java.util.Arrays.asList(" ++
    String.intercalate "," (method.names.map (literalLine escapeLiterals)) ++
    "\n    );\n  \x7d\n"

namespace ImplementationPlan

/-- The clause that names the package; the default package has none. -/
def packageClause (plan : ImplementationPlan) : String :=
  if plan.package = "" then "" else "package " ++ plan.package ++ ";\n\n"

/-- The line that opens the class. -/
def header (plan : ImplementationPlan) : String :=
  "public final class " ++ plan.implName ++ " implements " ++ plan.templateName ++ " \x7b\n"

/-- The text of an implementation. -/
def render (escapeLiterals : Bool) (plan : ImplementationPlan) : String :=
  let methods := plan.methods.filter fun method => method.member.isAbstract
  plan.packageClause ++ plan.header ++
    String.join (methods.map (MethodPlan.render escapeLiterals)) ++ "\x7d\n"

end ImplementationPlan

end Stencil
