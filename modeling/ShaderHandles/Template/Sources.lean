import ShaderHandles.Template.Parser
import ShaderHandles.Text.Quoted

/-!
# The templates of the two artifacts

The sources are part of the program. They only lay out what is put into them: the lines of every
shader are written elsewhere.

* `Template.source?`: the source of a template by its exact name.
* `Template.get`: the template itself.
-/

namespace ShaderHandles.Template

def interfaceName : String := "interface.h"

def implementationName : String := "implementation.c"

def placeOf (name : String) : String := "\x7b\x7b " ++ name ++ " \x7d\x7d"

def tagOf (words : String) : String := "\x7b$ " ++ words ++ " $\x7d"

/-- Lines, each with its line end. -/
def lines (lines : List String) : String := String.join (lines.map (· ++ "\n"))

def interfaceSource : String :=
  lines [
    "/* FILE GENERATED BY " ++ placeOf "provenance" ++ " */",
    "#ifndef " ++ placeOf "include_guard",
    "#define " ++ placeOf "include_guard",
    "#include \"" ++ placeOf "graphics_header" ++ "\"",
    "",
    "typedef struct " ++ placeOf "simple_shader_type" ++ "_ \x7b",
    tagOf "for field in simple_fields",
    "    " ++ placeOf "handle_type" ++ " " ++ placeOf "field" ++ ";",
    tagOf "endfor",
    "\x7d " ++ placeOf "simple_shader_type" ++ ";",
    "",
    "typedef struct " ++ placeOf "container_type" ++ "_ \x7b",
    tagOf "for line in members",
    placeOf "line",
    tagOf "endfor",
    "\x7d " ++ placeOf "container_type" ++ ";",
    "",
    "/*",
    " * Process-wide shader state.",
    " *",
    " * " ++ placeOf "load_fn" ++ "() compiles every program and resolves every handle into",
    " * " ++ placeOf "instance" ++ "; " ++ placeOf "unload_fn" ++
      "() deletes every program and zeroes the whole",
    " * structure. A load that fails part way may leave some fields populated and",
    " * others not: treat any load failure as fatal for the entire structure.",
    " */",
    "extern " ++ placeOf "container_type" ++ " " ++ placeOf "instance" ++ ";",
    "",
    "void " ++ placeOf "load_fn" ++ " (void);",
    "void " ++ placeOf "unload_fn" ++ " (void);",
    "",
    "#endif /* " ++ placeOf "include_guard" ++ " */"]

def implementationSource : String :=
  lines [
    "/* FILE GENERATED BY " ++ placeOf "provenance" ++ " */",
    "#include <string.h>",
    "#include \"" ++ placeOf "header_file" ++ "\"",
    tagOf "for include in source_includes",
    "#include \"" ++ placeOf "include" ++ "\"",
    tagOf "endfor",
    "",
    placeOf "container_type" ++ " " ++ placeOf "instance" ++ ";",
    "",
    "void " ++ placeOf "load_fn" ++ " (void) \x7b",
    tagOf "for shader in bindings",
    tagOf "for line in shader",
    placeOf "line",
    tagOf "endfor",
    tagOf "if not loop.last",
    "",
    tagOf "endif",
    tagOf "endfor",
    "\x7d",
    "",
    "void " ++ placeOf "unload_fn" ++ " (void) \x7b",
    tagOf "for line in releases",
    placeOf "line",
    tagOf "endfor",
    "   memset(&" ++ placeOf "instance" ++ ", 0, sizeof(" ++ placeOf "instance" ++ "));",
    "\x7d"]

/-- The source of the template of a name. Names are exact. -/
def source? (name : String) : Option String :=
  if name = interfaceName then some interfaceSource
  else if name = implementationName then some implementationSource
  else none

/-- The source of the template of a name, or the fault that there is none. -/
def source (name : String) : Except Fault String :=
  match source? name with
  | some source => .ok source
  | none => .error (.notFound name)

def get (name : String) : Except Fault Template := do
  let source ← source name
  match parse source with
  | some template => .ok template
  | none => .error .malformed

def Fault.message : Fault → String
  | notFound name =>
    "template not found: template " ++ Text.quoted name ++ " does not exist"
  | malformed => "syntax error"
  | undefined name => "undefined value: " ++ name

end ShaderHandles.Template
