/-!
# Types as written in declarations

A plain name stands for a primitive type, a type variable, or a declared type
without arguments; which of these it is can depend on the type parameters in
scope.  Types are compared by the text that shows them, so a declared type
with no arguments is the same type as its plain name.
-/

namespace Stencil

/-- A type as written in a declaration. -/
inductive TypeRef where
  /-- A name without arguments. -/
  | plain (name : String)
  /-- A declared type applied to arguments. -/
  | declared (name : String) (arguments : List TypeRef)
  /-- An array of elements of a type. -/
  | array (element : TypeRef)
  deriving Repr

/-- What a type is, seen from within some type parameters. -/
inductive TypeKind where
  | void
  | primitive
  | typeVariable
  | declared
  | array
  deriving DecidableEq, Repr

namespace TypeRef

mutual

private def decideEq : (first second : TypeRef) → Decidable (first = second)
  | .plain name, .plain other =>
    if same : name = other then isTrue (by rw [same])
    else isFalse (fun equal => same (by injection equal))
  | .declared name arguments, .declared other others =>
    if same : name = other then
      match decideEqList arguments others with
      | isTrue sameArguments => isTrue (by rw [same, sameArguments])
      | isFalse different => isFalse (fun equal => different (by injection equal))
    else isFalse (fun equal => same (by injection equal))
  | .array element, .array other =>
    match decideEq element other with
    | isTrue same => isTrue (by rw [same])
    | isFalse different => isFalse (fun equal => different (by injection equal))
  | .plain _, .declared _ _ => isFalse (fun equal => by injection equal)
  | .plain _, .array _ => isFalse (fun equal => by injection equal)
  | .declared _ _, .plain _ => isFalse (fun equal => by injection equal)
  | .declared _ _, .array _ => isFalse (fun equal => by injection equal)
  | .array _, .plain _ => isFalse (fun equal => by injection equal)
  | .array _, .declared _ _ => isFalse (fun equal => by injection equal)
termination_by structural first => first

private def decideEqList : (first second : List TypeRef) → Decidable (first = second)
  | [], [] => isTrue rfl
  | item :: rest, other :: others =>
    match decideEq item other, decideEqList rest others with
    | isTrue same, isTrue sameRest => isTrue (by rw [same, sameRest])
    | isFalse different, _ => isFalse (fun equal => different (by injection equal))
    | _, isFalse different => isFalse (fun equal => different (by injection equal))
  | [], _ :: _ => isFalse (fun equal => by injection equal)
  | _ :: _, [] => isFalse (fun equal => by injection equal)
termination_by structural first => first

end

instance : DecidableEq TypeRef := decideEq

def primitiveNames : List String :=
  ["boolean", "byte", "short", "int", "long", "char", "float", "double"]

def voidName : String := "void"

def void : TypeRef := plain voidName

def isPrimitive : TypeRef → Bool
  | plain name => primitiveNames.contains name
  | declared _ _ | array _ => false

def isVoid : TypeRef → Bool
  | plain name => name == voidName
  | declared _ _ | array _ => false

/-- What a type is within type parameters.  The names of primitive types cannot
be taken by parameters. -/
def kindIn (parameters : List String) : TypeRef → TypeKind
  | plain name =>
    if name = voidName then .void
    else if primitiveNames.contains name then .primitive
    else if parameters.contains name then .typeVariable
    else .declared
  | declared _ _ => .declared
  | array _ => .array

/-- The name of the declaration that a type refers to. -/
def declaredName? : TypeRef → Option String
  | plain name =>
    if primitiveNames.contains name || name == voidName then none else some name
  | declared name _ => some name
  | array _ => none

def typeArguments : TypeRef → List TypeRef
  | declared _ arguments => arguments
  | plain _ | array _ => []

/-- Whether a type refers to a declaration without giving arguments. -/
def isRaw (type : TypeRef) : Bool :=
  type.declaredName?.isSome && type.typeArguments.isEmpty

def erasure : TypeRef → TypeRef
  | plain name => plain name
  | declared name _ => plain name
  | array element => array element.erasure

/-- The type that the first binding of a variable gives. -/
def bound? (bindings : List (String × TypeRef)) (name : String) : Option TypeRef :=
  (bindings.find? (·.1 = name)).map (·.2)

mutual

/-- A type with its variables replaced by what they are bound to. -/
def substitute (bindings : List (String × TypeRef)) : TypeRef → TypeRef
  | .plain name => (bound? bindings name).getD (.plain name)
  | .declared name arguments => .declared name (substituteList bindings arguments)
  | .array element => .array (element.substitute bindings)
termination_by structural type => type

def substituteList (bindings : List (String × TypeRef)) : List TypeRef → List TypeRef
  | [] => []
  | type :: rest => type.substitute bindings :: substituteList bindings rest
termination_by structural types => types

end

mutual

/-- The characters that show a type. -/
def display : TypeRef → List Char
  | .plain name => name.toList
  | .declared name [] => name.toList
  | .declared name (argument :: rest) =>
    name.toList ++ '<' :: argument.display ++ displayRest rest ++ ['>']
  | .array element => element.display ++ ['[', ']']
termination_by structural type => type

def displayRest : List TypeRef → List Char
  | [] => []
  | argument :: rest => ',' :: argument.display ++ displayRest rest
termination_by structural types => types

end

def text (type : TypeRef) : String := String.ofList type.display

/-- Whether two types are shown alike. -/
def sameType (first second : TypeRef) : Bool := first.display == second.display

theorem substituteList_eq_map (bindings : List (String × TypeRef)) (types : List TypeRef) :
    substituteList bindings types = types.map (substitute bindings) := by
  induction types with
  | nil => rfl
  | cons type rest ih => rw [substituteList, ih, List.map_cons]

theorem sameType_iff {first second : TypeRef} :
    first.sameType second = true ↔ first.display = second.display := by
  simp [sameType]

end TypeRef

end Stencil
