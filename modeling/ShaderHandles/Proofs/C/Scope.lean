import ShaderHandles.Proofs.C.Syntax
import ShaderHandles.Proofs.Table

/-!
# Scopes and places

Every struct is a scope of its own, in which the names of the members have to be distinct. A place is
resolved from the variable of a header member by member, through inline structs and through members of
the shared struct type.

* `WellScoped`: the members of a struct and of the structs inside it.
* `Header.resolve`: the type of the scalar that a place stands for.
* `Statement.targets`, `Statement.arguments`: the places that statements assign to and pass on.
-/

namespace ShaderHandles.C

/-! ## Scopes -/

def Member.name : Member → String
  | .typed _ name => name
  | .struct _ name => name

/-- In a struct and in every struct inside it the members are identifiers with distinct names. -/
inductive WellScoped : List Member → Prop where
  | intro {members : List Member}
    (identifiers : ∀ member ∈ members, isIdentifier member.name = true)
    (distinct : (members.map Member.name).Nodup)
    (nested : ∀ inner name, .struct inner name ∈ members → WellScoped inner) : WellScoped members

theorem WellScoped.distinct {members : List Member} (h : WellScoped members) :
    (members.map Member.name).Nodup := by
  cases h
  assumption

/-! ## Places -/

/-- The type of the scalar at the end of a path through some members. A struct is no scalar. -/
def lookup (types : List Typedef) (members : List Member) : List String → Option String
  | [] => none
  | name :: rest =>
    match members.find? (·.name = name) with
    | some (.struct inner _) => lookup types inner rest
    | some (.typed type _) =>
      match types.find? (·.name = type) with
      | some definition => lookup types definition.members rest
      | none => if rest = [] then some type else none
    | none => none

/-- The type of the scalar that a place stands for. -/
def Header.resolve (header : Header) (place : Place) : Option String :=
  if header.object.name = place.root ∧ header.object.type = header.container.name then
    lookup [header.shared] header.container.members place.members
  else none

/-- A member is found by its name where names are distinct. -/
theorem find?_name {members : List Member} {member : Member}
    (hNames : (members.map Member.name).Nodup) (hMember : member ∈ members) :
    members.find? (·.name = member.name) = some member :=
  find?_of_nodup hNames hMember

/-! ## Places in statements -/

def Argument.place? : Argument → Option Place
  | .place path => some path
  | _ => none

mutual

/-- The places that a statement assigns to. -/
def Statement.targets : Statement → List Place
  | .assign target _ => [target]
  | .call _ => []
  | .check _ body => bodyTargets body

def bodyTargets : List Statement → List Place
  | [] => []
  | statement :: rest => statement.targets ++ bodyTargets rest

end

mutual

/-- The places among the arguments of a statement's calls. -/
def Statement.arguments : Statement → List Place
  | .assign _ call => call.arguments.filterMap Argument.place?
  | .call call => call.arguments.filterMap Argument.place?
  | .check condition body =>
    condition.arguments.filterMap Argument.place? ++ bodyArguments body

def bodyArguments : List Statement → List Place
  | [] => []
  | statement :: rest => statement.arguments ++ bodyArguments rest

end

theorem bodyTargets_eq_flatMap (body : List Statement) :
    bodyTargets body = body.flatMap Statement.targets := by
  induction body with
  | nil => rfl
  | cons statement rest ih => rw [bodyTargets, ih, List.flatMap_cons]

theorem bodyArguments_eq_flatMap (body : List Statement) :
    bodyArguments body = body.flatMap Statement.arguments := by
  induction body with
  | nil => rfl
  | cons statement rest ih => rw [bodyArguments, ih, List.flatMap_cons]

/-- The places that a source file assigns to. -/
def Source.targets (source : Source) : List Place :=
  bodyTargets source.load.body ++ bodyTargets source.unload.body

/-- The places that a source file passes to calls. -/
def Source.arguments (source : Source) : List Place :=
  bodyArguments source.load.body ++ bodyArguments source.unload.body

end ShaderHandles.C
