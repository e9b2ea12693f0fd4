import Mathlib.Data.List.Sections
import Stencil.Proofs.Graph.Assignability
import Stencil.Proofs.TypeRef.Parts

/-!
# Hierarchies with arguments that do not grow

A hierarchy is steady if no supertype wraps a type parameter into an argument: each
argument is a type parameter itself, or has none in it.  Following supertypes then passes
arguments on and never builds new ones.  All arguments that come up are parts of the type
at the start or of a supertype as it is written, and every type that names a declaration is
such a part, or a supertype with such parts for its arguments.  There are finitely many of
these types.
-/

namespace Stencil

section Sections

variable {α β : Type} {pool : List α} {places : List β}

theorem mem_of_mem_sections {values : List α}
    (chosen : values ∈ (places.map fun _ => pool).sections) : ∀ value ∈ values, value ∈ pool := by
  rw [List.mem_sections, List.forall₂_map_right_iff] at chosen
  induction chosen with
  | nil => exact fun _ absent => absurd absent List.not_mem_nil
  | cons member _ ih => exact List.forall_mem_cons.mpr ⟨member, ih⟩

end Sections

/-- The types that a type can turn into if others from a pool take the place of its
arguments. -/
def TypeRef.instances (pool : List TypeRef) : TypeRef → List TypeRef
  | .declared name arguments =>
    .plain name :: (arguments.map fun _ => pool).sections.map (.declared name)
  | .plain _ | .array _ => []

namespace Graph

def supertypes (graph : Graph) : List TypeRef :=
  graph.entries.flatMap fun entry => entry.declaration.supertypes

/-- Whether the arguments of supertypes do not grow: each one is a type parameter of the
declaration, or has none of them among its parts. -/
def Steady (graph : Graph) : Prop :=
  ∀ entry ∈ graph.entries, ∀ supertype ∈ entry.declaration.supertypes,
    ∀ argument ∈ supertype.typeArguments,
      (∃ parameter ∈ entry.declaration.typeParameters, argument = .plain parameter) ∨
        ∀ parameter ∈ entry.declaration.typeParameters, .plain parameter ∉ argument.parts

instance (graph : Graph) : Decidable graph.Steady :=
  inferInstanceAs (Decidable (∀ entry ∈ graph.entries,
    ∀ supertype ∈ entry.declaration.supertypes, ∀ argument ∈ supertype.typeArguments,
      (∃ parameter ∈ entry.declaration.typeParameters, argument = .plain parameter) ∨
        ∀ parameter ∈ entry.declaration.typeParameters, .plain parameter ∉ argument.parts))

/-- The parts of a type and of the supertypes in a graph. -/
def pool (graph : Graph) (source : TypeRef) : List TypeRef :=
  TypeRef.partsOfList (source :: graph.supertypes)

/-- The types that a search from a source can follow in a steady graph. -/
def candidates (graph : Graph) (source : TypeRef) : List TypeRef :=
  graph.pool source ++ graph.supertypes.flatMap (TypeRef.instances (graph.pool source))

/-- How the types are shown that a search from a source can follow in a steady graph. -/
def renderings (graph : Graph) (source : TypeRef) : List (List Char) :=
  (graph.candidates source).map TypeRef.display

section Candidates

variable {graph : Graph} {source : TypeRef}

theorem mem_supertypes {entry : Entry} (stored : entry ∈ graph.entries) {supertype : TypeRef}
    (listed : supertype ∈ entry.declaration.supertypes) : supertype ∈ graph.supertypes :=
  List.mem_flatMap.mpr ⟨entry, stored, listed⟩

theorem mem_pool_of_source {part : TypeRef} (within : part ∈ source.parts) :
    part ∈ graph.pool source :=
  TypeRef.mem_partsOfList List.mem_cons_self within

theorem mem_pool_of_supertype {supertype part : TypeRef} (listed : supertype ∈ graph.supertypes)
    (within : part ∈ supertype.parts) : part ∈ graph.pool source :=
  TypeRef.mem_partsOfList (List.mem_cons_of_mem _ listed) within

theorem mem_pool_of_mem_typeArguments {part argument : TypeRef}
    (given : argument ∈ part.typeArguments) (member : part ∈ graph.pool source) :
    argument ∈ graph.pool source :=
  TypeRef.mem_partsOfList_of_mem_typeArguments given _ member

theorem mem_candidates_of_pool {type : TypeRef} (member : type ∈ graph.pool source) :
    type ∈ graph.candidates source :=
  List.mem_append_left _ member

theorem plain_mem_candidates {name : String} {arguments : List TypeRef}
    (listed : .declared name arguments ∈ graph.supertypes) :
    .plain name ∈ graph.candidates source :=
  List.mem_append_right _ (List.mem_flatMap.mpr ⟨_, listed, List.mem_cons_self⟩)

theorem declared_mem_candidates {name : String} {arguments : List TypeRef}
    (listed : .declared name arguments ∈ graph.supertypes) (change : TypeRef → TypeRef)
    (given : ∀ argument ∈ arguments, change argument ∈ graph.pool source) :
    .declared name (arguments.map change) ∈ graph.candidates source := by
  apply List.mem_append_right
  refine List.mem_flatMap.mpr ⟨_, listed, List.mem_cons_of_mem _ (List.mem_map_of_mem ?_)⟩
  rw [List.mem_sections, List.forall₂_map_left_iff, List.forall₂_map_right_iff,
    List.forall₂_same]
  exact given

theorem mem_pool_of_candidate {type argument : TypeRef} (member : type ∈ graph.candidates source)
    (given : argument ∈ type.typeArguments) : argument ∈ graph.pool source := by
  rcases List.mem_append.mp member with part | made
  · exact mem_pool_of_mem_typeArguments given part
  · obtain ⟨supertype, -, made⟩ := List.mem_flatMap.mp made
    cases supertype with
    | plain name => exact absurd made List.not_mem_nil
    | array element => exact absurd made List.not_mem_nil
    | declared name arguments =>
      rcases List.mem_cons.mp made with rfl | made
      · exact absurd given List.not_mem_nil
      · obtain ⟨values, chosen, rfl⟩ := List.mem_map.mp made
        exact mem_of_mem_sections chosen argument given

/-- The types that a search follows, up to those that name no declaration. -/
def Followed (graph : Graph) (source type : TypeRef) : Prop :=
  type.declaredName? = none ∨ type ∈ graph.candidates source

theorem Followed.mem_pool {type argument : TypeRef} (followed : graph.Followed source type)
    (given : argument ∈ type.typeArguments) : argument ∈ graph.pool source := by
  rcases followed with undeclared | member
  · cases type with
    | plain name => exact absurd given List.not_mem_nil
    | array element => exact absurd given List.not_mem_nil
    | declared name arguments => cases undeclared
  · exact mem_pool_of_candidate member given

theorem substitute_plain_mem_pool {bindings : List (String × TypeRef)} {name : String}
    (values : ∀ value ∈ bindings.map Prod.snd, value ∈ graph.pool source)
    (own : .plain name ∈ graph.pool source) :
    (TypeRef.plain name).substitute bindings ∈ graph.pool source := by
  rw [TypeRef.substitute]
  cases found : TypeRef.bound? bindings name with
  | none => exact own
  | some value => exact values value (TypeRef.mem_of_bound? found)

/-- An argument of a supertype in a steady graph turns into something from the pool. -/
theorem Steady.substitute_mem_pool (steady : graph.Steady) {entry : Entry}
    (stored : entry ∈ graph.entries) {supertype : TypeRef}
    (listed : supertype ∈ entry.declaration.supertypes) {values : List TypeRef}
    (pooled : ∀ value ∈ values, value ∈ graph.pool source) {argument : TypeRef}
    (given : argument ∈ supertype.typeArguments) :
    argument.substitute (entry.declaration.typeParameters.zip values) ∈ graph.pool source := by
  have part : argument ∈ graph.pool source := by
    apply mem_pool_of_mem_typeArguments given
    exact mem_pool_of_supertype (mem_supertypes stored listed) (TypeRef.mem_parts_self _)
  rcases steady entry stored supertype listed argument given with ⟨parameter, -, rfl⟩ | closed
  · apply substitute_plain_mem_pool _ part
    exact fun value bound => pooled value (TypeRef.mem_of_mem_values bound)
  · have unchanged : argument.substitute (entry.declaration.typeParameters.zip values) =
        argument := by
      apply TypeRef.substitute_eq_self
      intro name within
      exact TypeRef.bound?_zip_eq_none (fun parameter => closed name parameter within) values
    rw [unchanged]
    exact part

theorem DirectSupertype.followed (steady : graph.Steady) {type next : TypeRef}
    (followed : graph.Followed source type) (direct : graph.DirectSupertype type next) :
    graph.Followed source next := by
  cases direct with
  | @erased name entry supertype named found bare generic listed =>
    have stored := mem_of_entry? found
    have written := mem_supertypes stored listed
    cases supertype with
    | plain name =>
      exact .inr (mem_candidates_of_pool
        (mem_pool_of_supertype written (TypeRef.mem_parts_self _)))
    | declared name arguments => exact .inr (plain_mem_candidates written)
    | array element => exact .inl rfl
  | @applied name entry supertype named found whole listed =>
    have stored := mem_of_entry? found
    have written := mem_supertypes stored listed
    have pooled : ∀ argument ∈ type.typeArguments, argument ∈ graph.pool source :=
      fun argument given => followed.mem_pool given
    cases supertype with
    | plain name =>
      refine .inr (mem_candidates_of_pool (substitute_plain_mem_pool ?_ ?_))
      · exact fun value bound => pooled value (TypeRef.mem_of_mem_values bound)
      · exact mem_pool_of_supertype written (TypeRef.mem_parts_self _)
    | declared name arguments =>
      rw [TypeRef.substitute, TypeRef.substituteList_eq_map]
      apply Or.inr
      apply declared_mem_candidates written
      intro argument given
      exact steady.substitute_mem_pool stored listed pooled given
    | array element => exact .inl rfl

/-- All that a type leads to in a steady graph is among the candidates, or names no
declaration. -/
theorem Leads.followed (steady : graph.Steady) {last : TypeRef}
    (leads : graph.Leads source last) : graph.Followed source last := by
  induction leads with
  | refl =>
    exact .inr (mem_candidates_of_pool (mem_pool_of_source (TypeRef.mem_parts_self source)))
  | tail _ direct ih => exact direct.followed steady ih

theorem display_mem_renderings (steady : graph.Steady) {last : TypeRef}
    (leads : graph.Leads source last) (named : last.declaredName? ≠ none) :
    last.display ∈ graph.renderings source :=
  List.mem_map_of_mem ((leads.followed steady).resolve_left named)

end Candidates

end Graph

end Stencil
