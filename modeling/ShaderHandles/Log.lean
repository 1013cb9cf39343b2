/-!
# The log

A computation that logs gives its value together with the entries it sends, in order.

* `Logged`: such a computation; its entries are those of its steps, one after the other.
* `Logged.bind_entries`: that law.
-/

namespace ShaderHandles

/-- How important an entry is, from the most to the least important. -/
inductive Level where
  | error
  | warn
  | info
  | debug
  | trace
  deriving DecidableEq

namespace Level

/-- The name in upper case. -/
def name : Level → String
  | error => "ERROR"
  | warn => "WARN"
  | info => "INFO"
  | debug => "DEBUG"
  | trace => "TRACE"

/-- A number that grows as the importance falls; zero is left for "nothing". -/
def verbosity : Level → Nat
  | error => 1
  | warn => 2
  | info => 3
  | debug => 4
  | trace => 5

end Level

/-- An entry of the log. The origin names the part of the program that sends it. -/
structure Entry where
  level : Level
  origin : String
  message : String
  deriving DecidableEq

/-- A value and the entries sent while it was computed, the oldest first. -/
structure Logged (α : Type) where
  value : α
  entries : List Entry := []

namespace Logged

instance : Monad Logged where
  pure value := { value }
  bind first next :=
    let second := next first.value
    { value := second.value, entries := first.entries ++ second.entries }

def send (entry : Entry) : Logged Unit := { value := (), entries := [entry] }

def sendAll (entries : List Entry) : Logged Unit := { value := (), entries }

@[simp] theorem pure_value {α : Type} (value : α) : (pure value : Logged α).value = value := rfl

@[simp] theorem pure_entries {α : Type} (value : α) : (pure value : Logged α).entries = [] := rfl

@[simp] theorem bind_value {α β : Type} (first : Logged α) (next : α → Logged β) :
    (first >>= next).value = (next first.value).value := rfl

@[simp] theorem bind_entries {α β : Type} (first : Logged α) (next : α → Logged β) :
    (first >>= next).entries = first.entries ++ (next first.value).entries := rfl

instance : LawfulMonad Logged :=
  LawfulMonad.mk' Logged
    (fun _ => by simp [Functor.map])
    (fun _ _ => rfl)
    (fun _ _ _ => by simp [Bind.bind, List.append_assoc])

end Logged

end ShaderHandles
