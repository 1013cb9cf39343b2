/-!
# Paths

A path is a text in which slashes keep names apart. Joining two paths normalises nothing.

* `Path.join`: an absolute second path replaces the first; otherwise a slash stands between the two,
  and is only added where the first does not end with one.
* `Path.names`: the names of a path, empty ones included.
-/

namespace ShaderHandles.Path

/-- The path of `second` below the directory `first`. -/
def join (first second : String) : String :=
  if second.toList.head? = some '/' then second
  else if first.isEmpty || first.toList.getLast? = some '/' then first ++ second
  else first ++ "/" ++ second

/-- The parts between slashes. -/
def splitNames : List Char → List (List Char)
  | [] => [[]]
  | c :: rest =>
    if c == '/' then [] :: splitNames rest
    else
      match splitNames rest with
      | [] => [[c]]
      | name :: names => (c :: name) :: names

/-- The names of a path. A slash at either end of the path leaves an empty name there. -/
def names (path : String) : List String :=
  (splitNames path.toList).map String.ofList

end ShaderHandles.Path
