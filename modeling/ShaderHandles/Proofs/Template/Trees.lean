import ShaderHandles.Template.Sources

/-!
# The templates as trees

What the two embedded sources are read as. A tag that stands alone on its line leaves no character
in the texts around it, so the texts below are the fixed parts of the artifacts as they are written.

* `parse_interfaceSource`, `parse_implementationSource`: the tree of each source.
* `get_interfaceName`, `get_implementationName`: the trees are found by the names of the templates.
-/

namespace ShaderHandles.Template

/-- A loop over texts whose body is the text on a line of its own. -/
def forEachLine (item list : String) (next : Template) : Template :=
  .forEach item list (.insert item (.text "\n" .done)) next

/-- A source is read as a tree, once its pieces are known. -/
theorem parse_of_scan {source : String} {pieces : List Piece} {tree : Template}
    (hScan : scan .text [] source.toList = some pieces) (hBuild : build pieces = some tree) :
    parse source = some tree := by
  rw [parse, hScan, Option.bind_some, hBuild]

/-- A template is found by the name of its source, once the tree of the source is known. -/
theorem get_of_parse {name source : String} {tree : Template}
    (hSource : source? name = some source) (hParse : parse source = some tree) :
    get name = .ok tree := by
  simp [get, Template.source, hSource, hParse, bind, Except.bind]

/-! ## The header -/

/-- What the comment on the container's instance says after naming the unload function. -/
def lifecycleNote : String :=
  "() deletes every program and zeroes the whole\n * structure. " ++
    "A load that fails part way may leave some fields populated and\n * others not: " ++
    "treat any load failure as fatal for the entire structure.\n */\nextern "

/-- The pieces of the source of the header's template. -/
def interfacePieces : List Piece := [
  .text "/* FILE GENERATED BY ", .value ["provenance"],
  .text " */\n#ifndef ", .value ["include_guard"],
  .text "\n#define ", .value ["include_guard"],
  .text "\n#include \"", .value ["graphics_header"],
  .text "\"\n\ntypedef struct ", .value ["simple_shader_type"], .text "_ \x7b\n",
  .tag ["for", "field", "in", "simple_fields"],
  .text "    ", .value ["handle_type"], .text " ", .value ["field"], .text ";\n", .tag ["endfor"],
  .text "\x7d ", .value ["simple_shader_type"],
  .text ";\n\ntypedef struct ", .value ["container_type"], .text "_ \x7b\n",
  .tag ["for", "line", "in", "members"], .text "", .value ["line"], .text "\n", .tag ["endfor"],
  .text "\x7d ", .value ["container_type"],
  .text ";\n\n/*\n * Process-wide shader state.\n *\n * ", .value ["load_fn"],
  .text "() compiles every program and resolves every handle into\n * ", .value ["instance"],
  .text "; ", .value ["unload_fn"],
  .text lifecycleNote,
  .value ["container_type"], .text " ", .value ["instance"],
  .text ";\n\nvoid ", .value ["load_fn"],
  .text " (void);\nvoid ", .value ["unload_fn"],
  .text " (void);\n\n#endif /* ", .value ["include_guard"], .text " */\n"]

/-- The template of the header. -/
def interfaceTree : Template :=
  .text "/* FILE GENERATED BY " <| .insert "provenance" <|
  .text " */\n#ifndef " <| .insert "include_guard" <|
  .text "\n#define " <| .insert "include_guard" <|
  .text "\n#include \"" <| .insert "graphics_header" <|
  .text "\"\n\ntypedef struct " <| .insert "simple_shader_type" <| .text "_ \x7b\n" <|
  .forEach "field" "simple_fields"
    (.text "    " <| .insert "handle_type" <| .text " " <| .insert "field" <| .text ";\n" .done) <|
  .text "\x7d " <| .insert "simple_shader_type" <|
  .text ";\n\ntypedef struct " <| .insert "container_type" <| .text "_ \x7b\n" <|
  forEachLine "line" "members" <|
  .text "\x7d " <| .insert "container_type" <|
  .text ";\n\n/*\n * Process-wide shader state.\n *\n * " <| .insert "load_fn" <|
  .text "() compiles every program and resolves every handle into\n * " <| .insert "instance" <|
  .text "; " <| .insert "unload_fn" <|
  .text lifecycleNote <|
  .insert "container_type" <| .text " " <| .insert "instance" <|
  .text ";\n\nvoid " <| .insert "load_fn" <|
  .text " (void);\nvoid " <| .insert "unload_fn" <|
  .text " (void);\n\n#endif /* " <| .insert "include_guard" <| .text " */\n" .done

set_option maxRecDepth 4000 in
theorem scan_interfaceSource :
    scan .text [] interfaceSource.toList = some interfacePieces := by
  simp only [interfaceSource, lines, placeOf, tagOf, String.join, List.map_cons, List.map_nil,
    List.foldl_cons, List.foldl_nil, String.toList_append]
  repeat rw [String.toList_ofList]
  rfl

set_option maxRecDepth 4000 in
theorem build_interfacePieces : build interfacePieces = some interfaceTree := rfl

theorem parse_interfaceSource : parse interfaceSource = some interfaceTree :=
  parse_of_scan scan_interfaceSource build_interfacePieces

theorem get_interfaceName : get interfaceName = .ok interfaceTree := by
  have hSource : source? interfaceName = some interfaceSource := if_pos rfl
  exact get_of_parse hSource parse_interfaceSource

/-! ## The source file -/

/-- The pieces of the source of the source file's template. -/
def implementationPieces : List Piece := [
  .text "/* FILE GENERATED BY ", .value ["provenance"],
  .text " */\n#include <string.h>\n#include \"", .value ["header_file"], .text "\"\n",
  .tag ["for", "include", "in", "source_includes"],
  .text "#include \"", .value ["include"], .text "\"\n", .tag ["endfor"],
  .text "\n", .value ["container_type"], .text " ", .value ["instance"],
  .text ";\n\nvoid ", .value ["load_fn"], .text " (void) \x7b\n",
  .tag ["for", "shader", "in", "bindings"], .text "",
  .tag ["for", "line", "in", "shader"], .text "", .value ["line"], .text "\n", .tag ["endfor"],
  .text "", .tag ["if", "not", "loop.last"], .text "\n", .tag ["endif"], .text "", .tag ["endfor"],
  .text "\x7d\n\nvoid ", .value ["unload_fn"], .text " (void) \x7b\n",
  .tag ["for", "line", "in", "releases"], .text "", .value ["line"], .text "\n", .tag ["endfor"],
  .text "   memset(&", .value ["instance"], .text ", 0, sizeof(", .value ["instance"],
  .text "));\n\x7d\n"]

/-- The template of the source file. -/
def implementationTree : Template :=
  .text "/* FILE GENERATED BY " <| .insert "provenance" <|
  .text " */\n#include <string.h>\n#include \"" <| .insert "header_file" <| .text "\"\n" <|
  .forEach "include" "source_includes"
    (.text "#include \"" <| .insert "include" <| .text "\"\n" .done) <|
  .text "\n" <| .insert "container_type" <| .text " " <| .insert "instance" <|
  .text ";\n\nvoid " <| .insert "load_fn" <| .text " (void) \x7b\n" <|
  .forEach "shader" "bindings"
    (forEachLine "line" "shader" <| .unlessLast (.text "\n" .done) .done) <|
  .text "\x7d\n\nvoid " <| .insert "unload_fn" <| .text " (void) \x7b\n" <|
  forEachLine "line" "releases" <|
  .text "   memset(&" <| .insert "instance" <| .text ", 0, sizeof(" <| .insert "instance" <|
  .text "));\n\x7d\n" .done

set_option maxRecDepth 4000 in
theorem scan_implementationSource :
    scan .text [] implementationSource.toList = some implementationPieces := by
  simp only [implementationSource, lines, placeOf, tagOf, String.join, List.map_cons,
    List.map_nil, List.foldl_cons, List.foldl_nil, String.toList_append]
  repeat rw [String.toList_ofList]
  rfl

set_option maxRecDepth 4000 in
theorem build_implementationPieces : build implementationPieces = some implementationTree := rfl

theorem parse_implementationSource : parse implementationSource = some implementationTree :=
  parse_of_scan scan_implementationSource build_implementationPieces

theorem get_implementationName : get implementationName = .ok implementationTree := by
  have hName : implementationName ≠ interfaceName := by decide
  have hSource : source? implementationName = some implementationSource := by
    rw [source?, if_neg hName, if_pos rfl]
  exact get_of_parse hSource parse_implementationSource

end ShaderHandles.Template
