/-!
# Templates

A template is fixed text with places for values, repeated parts, and parts that the last pass of a
loop leaves out. Values are put in as they are, and nothing in them is read as a template.

* `Template.render`: the text of a template in a scope. A place whose name is not in the scope, or
  whose value has the wrong shape, is a fault.
-/

namespace ShaderHandles

/-- A template, as the sequence of its parts. -/
inductive Template where
  | done
  /-- Fixed text. -/
  | text (fixed : String) (next : Template)
  /-- The place of a value. -/
  | insert (name : String) (next : Template)
  /-- A part that is repeated for every item of a list. -/
  | forEach (item list : String) (body next : Template)
  /-- A part that is left out in the last pass of the loop around it. -/
  | unlessLast (body next : Template)
  deriving DecidableEq

namespace Template

/-- What a name in a template stands for. -/
inductive Value where
  | text (value : String)
  | list (items : List Value)

/-- What can be wrong with a template or with its use. -/
inductive Fault where
  /-- No template has this name. -/
  | notFound (name : String)
  /-- The source is not a template. -/
  | malformed
  /-- A name has no value of the shape that is asked for. -/
  | undefined (name : String)
  deriving DecidableEq

/-- The values of the names, the innermost first, and whether the loop is in its last pass. -/
structure Scope where
  values : List (String × Value)
  inLastPass : Bool := false

namespace Scope

def get? (scope : Scope) (name : String) : Option Value := scope.values.lookup name

def enter (scope : Scope) (item : String) (pass : Value × Bool) : Scope where
  values := (item, pass.1) :: scope.values
  inLastPass := pass.2

end Scope

/-- The items of a list, each with the answer to whether it is the last one. -/
def passes {α : Type} : List α → List (α × Bool)
  | [] => []
  | [item] => [(item, true)]
  | item :: next :: rest => (item, false) :: passes (next :: rest)

def render : Template → Scope → Except Fault String
  | .done, _ => .ok ""
  | .text fixed next, scope => do
    let rest ← next.render scope
    return fixed ++ rest
  | .insert name next, scope =>
    match scope.get? name with
    | some (.text value) => do
      let rest ← next.render scope
      return value ++ rest
    | _ => .error (.undefined name)
  | .forEach item list body next, scope =>
    match scope.get? list with
    | some (.list items) => do
      let parts ← (passes items).mapM fun pass => body.render (scope.enter item pass)
      let rest ← next.render scope
      return String.join parts ++ rest
    | _ => .error (.undefined list)
  | .unlessLast body next, scope => do
    let part ← if scope.inLastPass then .ok "" else body.render scope
    let rest ← next.render scope
    return part ++ rest

@[simp] theorem map_fst_passes {α : Type} (items : List α) :
    (passes items).map Prod.fst = items := by
  induction items with
  | nil => rfl
  | cons item rest ih =>
    cases rest with
    | nil => rfl
    | cons next rest => simpa [passes] using ih

end Template

end ShaderHandles
