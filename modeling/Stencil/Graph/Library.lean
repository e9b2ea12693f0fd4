import Stencil.Declaration.Basic

/-!
# Library declarations

The declarations that every graph can rely on without its document giving
them.
-/

namespace Stencil.Library

/-- The qualified name of the root of all declared types. -/
def objectName : String := "java.lang.Object"

/-- The qualified name of the type of texts. -/
def stringName : String := "java.lang.String"

/-- The qualified name of the type of lists. -/
def listName : String := "java.util.List"

/-- The root of all declared types. -/
def objectType : TypeRef := .plain objectName

/-- Lists of texts, the only type for which implementations are generated. -/
def listOfString : TypeRef := .declared listName [.plain stringName]

/-- A declared type applied to the one type parameter of the library's
collections. -/
def ofElement (name : String) : TypeRef := .declared name [.plain "E"]

/-- The packages of the library. -/
def packages : List Package := [
  { name := "java.lang"
    declarations := [
      { name := "Object" },
      { name := "String"
        supertypes := [objectType]
        members := [{ name := "length", returnType := .plain "int" }] },
      { name := "Integer"
        supertypes := [objectType]
        members := [{ name := "intValue", returnType := .plain "int" }] }] },
  { name := "java.util"
    declarations := [
      { name := "Collection"
        kind := .interfaceType
        typeParameters := ["E"]
        members := [{
          name := "size"
          returnType := .plain "int"
          modifiers := [.publicAccess, .abstract] }] },
      { name := "List"
        kind := .interfaceType
        typeParameters := ["E"]
        supertypes := [ofElement "java.util.Collection"]
        members := [{
          name := "get"
          parameters := [⟨"index", .plain "int"⟩]
          returnType := .plain "E"
          modifiers := [.publicAccess, .abstract] }] },
      { name := "ArrayList"
        typeParameters := ["E"]
        supertypes := [objectType, ofElement listName] },
      { name := "LinkedList"
        typeParameters := ["E"]
        supertypes := [objectType, ofElement listName] }] }]

end Stencil.Library
