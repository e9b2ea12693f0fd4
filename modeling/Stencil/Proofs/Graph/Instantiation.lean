import Stencil.Proofs.Graph.Assignability
import Stencil.Proofs.TypeRef.Substitution

/-!
# Chains of generic supertypes

A search instantiates the supertypes of a declaration with the arguments of the type that
it has got to, which were instantiated in the same way.  Along a whole chain this comes to
one substitution in the last supertype as its declaration writes it: each declaration on
the way binds its parameters to the arguments that are written for it, and these bindings
are composed.

A search never substitutes into what it has instantiated.  A name that a declaration does
not bind therefore stays as it is, also if another declaration on the way has a parameter
of this name.  Where there is no such name, the bindings of all declarations may be used.
-/

namespace Stencil

namespace TypeRef

theorem zip_map_substitute (parameters : List String) (arguments : List TypeRef)
    (bindings : List (String × TypeRef)) :
    parameters.zip (arguments.map (substitute bindings)) =
      substituteBound bindings (parameters.zip arguments) :=
  List.zip_map_right

theorem mem_of_bound?_zip {parameters : List String} {arguments : List TypeRef} {name : String}
    {value : TypeRef} (found : bound? (parameters.zip arguments) name = some value) :
    value ∈ arguments :=
  mem_of_mem_values (mem_of_bound? found)

end TypeRef

open TypeRef (bound? compose composeAll substituteBound)

/-- A declaration on the way along supertypes: its type parameters, and the type that was
written for it. -/
structure Application where
  parameters : List String
  written : TypeRef

namespace Application

def bindings (application : Application) : List (String × TypeRef) :=
  application.parameters.zip application.written.typeArguments

/-- What the parameters of the last declaration on the way stand for in the end.  The last
one comes first. -/
def nested : List Application → List (String × TypeRef)
  | [] => []
  | last :: earlier => substituteBound (nested earlier) last.bindings

/-- The bindings of all declarations on the way, composed. -/
def composed (way : List Application) : List (String × TypeRef) :=
  composeAll (way.map bindings)

/-- Whether no declaration on the way captures a name: what stands in a supertype and is
not bound by the declaration that it is written in is not bound by those before either. -/
def CaptureFree : List Application → TypeRef → Prop
  | [], _ => True
  | last :: earlier, written =>
    (∀ name ∈ written.plainNames, bound? last.bindings name = none →
      bound? (composed earlier) name = none) ∧ CaptureFree earlier last.written

instance decidableCaptureFree :
    ∀ (way : List Application) (written : TypeRef), Decidable (CaptureFree way written)
  | [], _ => inferInstanceAs (Decidable True)
  | last :: earlier, written =>
    have := decidableCaptureFree earlier last.written
    inferInstanceAs (Decidable ((∀ name ∈ written.plainNames, bound? last.bindings name = none →
      bound? (composed earlier) name = none) ∧ CaptureFree earlier last.written))

theorem CaptureFree.argument {way : List Application} {written argument : TypeRef}
    (free : CaptureFree way written) (given : argument ∈ written.typeArguments) :
    CaptureFree way argument := by
  cases way with
  | nil => trivial
  | cons last earlier =>
    obtain ⟨own, before⟩ := free
    refine ⟨fun name within => ?_, before⟩
    exact own name (TypeRef.plainNames_subset_of_mem_typeArguments given within)

/-- Where nothing is captured, the bindings of the declarations before the last one add
nothing. -/
theorem substitute_nested_eq {way : List Application} {written : TypeRef}
    (free : CaptureFree way written) :
    written.substitute (nested way) = written.substitute (composed way) := by
  induction way generalizing written with
  | nil => rfl
  | cons last earlier ih =>
    obtain ⟨own, before⟩ := free
    apply TypeRef.substitute_congr
    intro name within
    rw [nested, composed, List.map_cons, composeAll, TypeRef.substitute, TypeRef.substitute,
      TypeRef.bound?_substituteBound, TypeRef.bound?_compose]
    cases found : bound? last.bindings name with
    | some argument =>
      have given : argument ∈ last.written.typeArguments := TypeRef.mem_of_bound?_zip found
      exact ih (before.argument given)
    | none =>
      have unbound := own name (TypeRef.mem_plainNames.mpr within) found
      rw [Option.map_none, Option.map_none, Option.none_or]
      exact congrArg (Option.getD · _) unbound.symm

end Application

open Application (nested composed CaptureFree)

namespace Graph

/-- The type that a walk from a source gets to: each step goes to the direct supertype at a
position.  The last position comes first. -/
def walk (graph : Graph) (source : TypeRef) : List Nat → Option TypeRef
  | [] => some source
  | position :: earlier =>
    (graph.walk source earlier).bind fun type => (graph.supertypesOf type)[position]?

/-- What a type leads to is what walks from it get to. -/
theorem leads_iff_exists_walk {graph : Graph} {source last : TypeRef} :
    graph.Leads source last ↔ ∃ path, graph.walk source path = some last := by
  constructor
  · intro leads
    induction leads with
    | refl => exact ⟨[], rfl⟩
    | tail _ direct ih =>
      obtain ⟨path, walked⟩ := ih
      obtain ⟨position, found⟩ := List.mem_iff_getElem?.mp (mem_supertypesOf_iff.mpr direct)
      refine ⟨position :: path, ?_⟩
      rw [walk, walked, Option.bind_some, found]
  · rintro ⟨path, walked⟩
    induction path generalizing last with
    | nil =>
      cases walked
      exact .refl
    | cons position earlier ih =>
      obtain ⟨before, walkedBefore, found⟩ := Option.bind_eq_some_iff.mp walked
      exact .tail (ih walkedBefore) (mem_supertypesOf_iff.mp (List.mem_of_getElem? found))

/-- The supertypes on a walk from a source as they are written, with the declarations on
the way.  Each step goes to a supertype of the declaration that the type before names: this
is no variable that something is put for, and no use without the arguments that there should
be, which would have erased supertypes. -/
inductive Spells (graph : Graph) (source : TypeRef) :
    List Nat → TypeRef → List Application → Prop where
  | start : Spells graph source [] source []
  | step {path : List Nat} {written next : TypeRef} {way : List Application}
      {name : QualifiedName} {entry : Entry} {position : Nat}
      (earlier : Spells graph source path written way)
      (keeps : written.KeepsHead (nested way))
      (named : written.declaredName? = some name) (found : graph.entry? name = some entry)
      (whole : written.typeArguments ≠ [] ∨ entry.declaration.typeParameters = [])
      (listed : entry.declaration.supertypes[position]? = some next) :
      Spells graph source (position :: path) next
        (⟨entry.declaration.typeParameters, written⟩ :: way)

variable {graph : Graph} {source written : TypeRef} {way : List Application}

/-- The supertypes of an instance of a written type are those of its declaration, with the
bindings of the written type instantiated in the same way. -/
theorem supertypesOf_substitute {bindings : List (String × TypeRef)} {name : QualifiedName}
    {entry : Entry} (keeps : written.KeepsHead bindings)
    (named : written.declaredName? = some name) (found : graph.entry? name = some entry)
    (whole : written.typeArguments ≠ [] ∨ entry.declaration.typeParameters = []) :
    graph.supertypesOf (written.substitute bindings) =
      entry.declaration.supertypes.map (TypeRef.substitute (substituteBound bindings
        (entry.declaration.typeParameters.zip written.typeArguments))) := by
  have arguments := TypeRef.typeArguments_substitute keeps
  have wholeInstance : (written.substitute bindings).typeArguments ≠ [] ∨
      entry.declaration.typeParameters = [] := by
    rw [arguments]
    exact whole.imp_left fun applied => by simpa using applied
  rw [supertypesOf_applied ((TypeRef.declaredName?_substitute keeps).trans named) found
    wholeInstance, arguments, TypeRef.zip_map_substitute]

/-- A walk gets to the last supertype as it is written, with one substitution in it. -/
theorem Spells.walk_eq {path : List Nat} (spells : graph.Spells source path written way) :
    graph.walk source path = some (written.substitute (nested way)) := by
  induction spells with
  | start => exact congrArg some (TypeRef.substitute_nil source).symm
  | @step path written next way name entry position earlier keeps named found whole listed ih =>
    rw [walk, ih, Option.bind_some, supertypesOf_substitute keeps named found whole,
      List.getElem?_map, listed]
    rfl

/-- Substitutions compose, in any number, and so do those on a walk along generic
supertypes: it gets to the last supertype as it is written, substituted once along the
bindings of its declaration, with those of the declarations before nested into them.  No
name is captured, as nothing else is ever substituted.  Where the other declarations on the
way have no parameter of such a name, this is the substitution along all their bindings, at
once or one after the other. -/
theorem walk_composed :
    (∀ (type : TypeRef) (first second : List (String × TypeRef)),
      (type.substitute first).substitute second = type.substitute (compose first second)) ∧
    (∀ (type : TypeRef) (chain : List (List (String × TypeRef))),
      chain.foldl (fun type bindings => type.substitute bindings) type =
        type.substitute (composeAll chain)) ∧
    ∀ (graph : Graph) (source written : TypeRef) (path : List Nat) (way : List Application),
      graph.Spells source path written way →
        graph.walk source path = some (written.substitute (nested way)) ∧
        graph.Leads source (written.substitute (nested way)) ∧
        (CaptureFree way written →
          graph.walk source path = some (written.substitute (composed way)) ∧
          graph.walk source path = some ((way.map Application.bindings).foldl
            (fun type bindings => type.substitute bindings) written)) := by
  refine ⟨fun type first second => TypeRef.substitute_substitute first second type,
    fun type chain => TypeRef.foldl_substitute chain type, ?_⟩
  intro graph source written path way spells
  refine ⟨spells.walk_eq, leads_iff_exists_walk.mpr ⟨path, spells.walk_eq⟩, fun free => ?_⟩
  have once : graph.walk source path = some (written.substitute (composed way)) := by
    rw [spells.walk_eq, Application.substitute_nested_eq free]
  refine ⟨once, ?_⟩
  rw [once, TypeRef.foldl_substitute]
  rfl

/-- Declarations that use the same parameters for different things.  The supertype of the
last one has a type of the default package for its argument. -/
def crossed : Graph where
  entries := entriesOf false [
    { declarations := [{ name := "T" }] },
    { name := "app"
      declarations := [
        { name := "A"
          typeParameters := ["T", "U"]
          supertypes := [.declared "app.B" [.plain "U", .declared "app.P" [.plain "T"]],
            .declared "app.E" [.plain "T"]] },
        { name := "B"
          typeParameters := ["T", "U"]
          supertypes := [.declared "app.C" [.declared "app.P" [.plain "U"], .plain "T"]] },
        { name := "C"
          typeParameters := ["X", "T"]
          supertypes := [.declared "app.D" [.plain "T", .plain "X", .plain "app.S"]] },
        { name := "E"
          typeParameters := ["V"]
          supertypes := [.declared "app.F" [.plain "T"]] }] }]
  distinct := by decide

/-- A type with arguments that are named like parameters. -/
def lookalike : TypeRef := .declared "app.A" [.plain "U", .plain "X"]

/-- The declarations on the way from the type to the supertype of `app.C`. -/
def crossedWay : List Application :=
  [⟨["X", "T"], .declared "app.C" [.declared "app.P" [.plain "U"], .plain "T"]⟩,
    ⟨["T", "U"], .declared "app.B" [.plain "U", .declared "app.P" [.plain "T"]]⟩,
    ⟨["T", "U"], lookalike⟩]

/-- Along three declarations that share their parameters, the arguments end up where they
belong. -/
theorem walk_composed_crossed :
    crossed.Spells lookalike [0, 0, 0]
      (.declared "app.D" [.plain "T", .plain "X", .plain "app.S"]) crossedWay ∧
    CaptureFree crossedWay (.declared "app.D" [.plain "T", .plain "X", .plain "app.S"]) ∧
    crossed.walk lookalike [0, 0, 0] = some (.declared "app.D"
      [.plain "X", .declared "app.P" [.declared "app.P" [.plain "U"]], .plain "app.S"]) := by
  have origin : crossed.Spells lookalike [] lookalike [] := .start
  have first : crossed.Spells lookalike [0]
      (.declared "app.B" [.plain "U", .declared "app.P" [.plain "T"]])
      [⟨["T", "U"], lookalike⟩] :=
    origin.step trivial rfl rfl (.inl (by decide)) rfl
  have second : crossed.Spells lookalike [0, 0]
      (.declared "app.C" [.declared "app.P" [.plain "U"], .plain "T"])
      [⟨["T", "U"], .declared "app.B" [.plain "U", .declared "app.P" [.plain "T"]]⟩,
        ⟨["T", "U"], lookalike⟩] :=
    first.step trivial rfl rfl (.inl (by decide)) rfl
  have spells : crossed.Spells lookalike [0, 0, 0]
      (.declared "app.D" [.plain "T", .plain "X", .plain "app.S"]) crossedWay :=
    second.step trivial rfl rfl (.inl (by decide)) rfl
  have free : CaptureFree crossedWay
      (.declared "app.D" [.plain "T", .plain "X", .plain "app.S"]) := by decide
  obtain ⟨-, -, whole⟩ := walk_composed.2.2 _ _ _ _ _ spells
  obtain ⟨once, -⟩ := whole free
  exact ⟨spells, free, once⟩

/-- The type `T` in the supertype of `app.E` is no parameter of this declaration and stays;
the bindings of the first declaration would capture it. -/
example : crossed.walk lookalike [0, 1] = some (.declared "app.F" [.plain "T"]) ∧
    (TypeRef.declared "app.F" [.plain "T"]).substitute
        (composed [⟨["V"], .declared "app.E" [.plain "T"]⟩, ⟨["T", "U"], lookalike⟩]) =
      .declared "app.F" [.plain "U"] := by
  decide

end Graph

end Stencil
