import ShaderHandles.Proofs.Artifacts.Layout

/-!
# Adding a shader to a registry

Generated files are kept under version control, so a shader that is added should show as lines that are
added. In the header these are its declaration. In the source file they are its block in the load
routine and its line in the unload routine. With the block comes the empty line that separates it from
its neighbour: the one behind it, or the one in front if it is added at the end, where the last shader
so far gets an empty line that it did not have. All other lines stay, whatever the names are.

* `Settings.addedBlock`: the lines that are added to the load routine.
* `Settings.adding_inserts`: both texts before and after a shader is added.
* `Settings.linesKept_of_sublist`: adding any number of shaders removes and changes no line.
-/

namespace ShaderHandles

/-! ## Blocks with an empty line between them -/

theorem intercalate_append_of_ne_nil {front back : List (List String)} (hBack : back ≠ []) :
    [""].intercalate (front ++ back) =
      (front.flatMap fun block => block ++ [""]) ++ [""].intercalate back := by
  induction front with
  | nil => rfl
  | cons block rest ih =>
    have hRest : rest ++ back ≠ [] := List.append_ne_nil_of_right_ne_nil rest hBack
    rw [List.cons_append, List.intercalate_cons_of_ne_nil hRest, ih, List.flatMap_cons]
    simp only [List.append_assoc]

theorem intercalate_concat_of_ne_nil {front : List (List String)} (hFront : front ≠ [])
    (block : List String) :
    [""].intercalate (front ++ [block]) = [""].intercalate front ++ "" :: block := by
  obtain ⟨rest, last, rfl⟩ : ∃ rest last, front = rest ++ [last] :=
    ⟨_, _, (List.dropLast_concat_getLast hFront).symm⟩
  have hBoth : rest ++ [last] ++ [block] = rest ++ [last, block] := List.append_assoc _ _ _
  rw [hBoth, intercalate_append_of_ne_nil (List.cons_ne_nil _ _),
    intercalate_append_of_ne_nil (List.cons_ne_nil _ _)]
  simp [List.intercalate]

namespace Settings

section

variable (settings : Settings) (front back : List Shader) (shader : Shader)

/-- The blocks of the shaders in front of a place in the load routine. An empty line follows each of
them, but not the last one if nothing stands behind the place. -/
def blocksBefore : List String :=
  if back = [] then [""].intercalate (front.map (Shader.loadLines settings))
  else front.flatMap fun other => other.loadLines settings ++ [""]

/-- The blocks of the shaders behind a place in the load routine. -/
def blocksAfter : List String := [""].intercalate (back.map (Shader.loadLines settings))

/-- The lines that a shader adds to the load routine: its own and one empty line, or its own alone if
there is no other shader. -/
def addedBlock : List String :=
  if back = [] then
    if front = [] then shader.loadLines settings else "" :: shader.loadLines settings
  else shader.loadLines settings ++ [""]

theorem loadBody_append : settings.loadBody (.ofList (front ++ back)) =
    settings.blocksBefore front back ++ settings.blocksAfter back := by
  rw [loadBody, Registry.toList_ofList, List.map_append, blocksBefore, blocksAfter]
  by_cases hBack : back = []
  · rw [if_pos hBack, hBack, List.map_nil, List.append_nil]
    exact (List.append_nil _).symm
  · have hBlocks : back.map (Shader.loadLines settings) ≠ [] := fun h => hBack (List.map_eq_nil_iff.mp h)
    rw [if_neg hBack, intercalate_append_of_ne_nil hBlocks, List.flatMap_map]

theorem loadBody_insert : settings.loadBody (.ofList (front ++ shader :: back)) =
    settings.blocksBefore front back ++ settings.addedBlock front back shader ++
      settings.blocksAfter back := by
  rw [loadBody, Registry.toList_ofList, List.map_append, List.map_cons, blocksBefore, addedBlock,
    blocksAfter]
  by_cases hBack : back = []
  · rw [if_pos hBack, if_pos hBack, hBack, List.map_nil]
    by_cases hFront : front = []
    · rw [if_pos hFront, hFront]
      simp
    · have hBlocks : front.map (Shader.loadLines settings) ≠ [] :=
        fun h => hFront (List.map_eq_nil_iff.mp h)
      rw [if_neg hFront, intercalate_concat_of_ne_nil hBlocks]
      exact (List.append_nil _).symm
  · have hBlocks : back.map (Shader.loadLines settings) ≠ [] := fun h => hBack (List.map_eq_nil_iff.mp h)
    rw [if_neg hBack, if_neg hBack, intercalate_append_of_ne_nil (List.cons_ne_nil _ _),
      List.intercalate_cons_of_ne_nil hBlocks, List.flatMap_map]
    simp only [List.append_assoc]

/-! ## The texts -/

/-- The lines of the header in front of a place in the container. -/
def interfaceBefore : List String :=
  settings.interfaceOpening ++ front.flatMap (Shader.declaration settings)

/-- The lines of the header behind a place in the container. -/
def interfaceAfter : List String :=
  back.flatMap (Shader.declaration settings) ++ settings.interfaceClosing

/-- The lines of the source file in front of a place in the load routine. -/
def implementationBefore : List String :=
  settings.implementationOpening ++
    (routineOpening settings.layout.loadFunction :: settings.blocksBefore front back)

/-- The lines of the source file from a place in the load routine to the same in the unload routine. -/
def implementationBetween : List String :=
  settings.blocksAfter back ++ ["\x7d", "", routineOpening settings.layout.unloadFunction] ++
    front.map (Shader.releaseLine settings)

/-- The lines of the source file behind a place in the unload routine. -/
def implementationAfter : List String :=
  back.map (Shader.releaseLine settings) ++ [settings.resetLine, "\x7d"]

theorem interfaceLines_append : settings.interfaceLines (.ofList (front ++ back)) =
    settings.interfaceBefore front ++ settings.interfaceAfter back := by
  rw [interfaceLines, Registry.toList_ofList, List.flatMap_append, interfaceBefore, interfaceAfter]
  simp only [List.append_assoc]

theorem interfaceLines_insert : settings.interfaceLines (.ofList (front ++ shader :: back)) =
    settings.interfaceBefore front ++ shader.declaration settings ++ settings.interfaceAfter back := by
  rw [interfaceLines_append, interfaceAfter, interfaceAfter, List.flatMap_cons]
  simp only [List.append_assoc]

theorem implementationLines_append : settings.implementationLines (.ofList (front ++ back)) =
    settings.implementationBefore front back ++ settings.implementationBetween front back ++
      settings.implementationAfter back := by
  rw [implementationLines, loadBody_append, unloadBody, Registry.toList_ofList, List.map_append,
    implementationBefore, implementationBetween, implementationAfter]
  simp only [List.append_assoc, List.cons_append, List.nil_append]

theorem implementationLines_insert :
    settings.implementationLines (.ofList (front ++ shader :: back)) =
      settings.implementationBefore front back ++ settings.addedBlock front back shader ++
        settings.implementationBetween front back ++ [shader.releaseLine settings] ++
          settings.implementationAfter back := by
  rw [implementationLines, loadBody_insert, unloadBody, Registry.toList_ofList, List.map_append,
    List.map_cons, implementationBefore, implementationBetween, implementationAfter]
  simp only [List.append_assoc, List.cons_append, List.nil_append]

/-- Adding a shader inserts its declaration into the header, and into the source file its block of the
load routine and its line of the unload routine. The parts between which they are inserted do not depend
on the shader. -/
theorem adding_inserts :
    (settings.interface (.ofList (front ++ back))).result =
        .ok (Template.lines (settings.interfaceBefore front) ++
          Template.lines (settings.interfaceAfter back)) ∧
      (settings.interface (.ofList (front ++ shader :: back))).result =
        .ok (Template.lines (settings.interfaceBefore front) ++
          Template.lines (shader.declaration settings) ++
            Template.lines (settings.interfaceAfter back)) ∧
      (settings.implementation (.ofList (front ++ back))).result =
        .ok (Template.lines (settings.implementationBefore front back) ++
          Template.lines (settings.implementationBetween front back) ++
            Template.lines (settings.implementationAfter back)) ∧
      (settings.implementation (.ofList (front ++ shader :: back))).result =
        .ok (Template.lines (settings.implementationBefore front back) ++
          Template.lines (settings.addedBlock front back shader) ++
            Template.lines (settings.implementationBetween front back) ++
              Template.lines [shader.releaseLine settings] ++
                Template.lines (settings.implementationAfter back)) := by
  refine ⟨?_, ?_, ?_, ?_⟩
  · rw [interface_result, interfaceLines_append, Template.lines_append]
  · rw [interface_result, interfaceLines_insert]
    simp only [Template.lines_append]
  · rw [implementation_result, implementationLines_append]
    simp only [Template.lines_append]
  · rw [implementation_result, implementationLines_insert]
    simp only [Template.lines_append]

end

/-! ## More than one shader -/

section

variable {settings : Settings} {front back more : List Shader} {shader : Shader}

/-- Every line of the one registry's texts stands in the other's, in the same order. -/
structure LinesKept (settings : Settings) (part whole : Registry) : Prop where
  interface : (settings.interfaceLines part).Sublist (settings.interfaceLines whole)
  implementation :
    (settings.implementationLines part).Sublist (settings.implementationLines whole)

theorem LinesKept.trans {part middle whole : Registry} (hFirst : settings.LinesKept part middle)
    (hSecond : settings.LinesKept middle whole) : settings.LinesKept part whole :=
  ⟨hFirst.interface.trans hSecond.interface, hFirst.implementation.trans hSecond.implementation⟩

theorem linesKept_insert :
    settings.LinesKept (.ofList (front ++ back)) (.ofList (front ++ shader :: back)) where
  interface := by
    rw [interfaceLines_append, interfaceLines_insert]
    exact (List.sublist_append_left _ _).append_right _
  implementation := by
    rw [implementationLines_append, implementationLines_insert]
    have hLoad := List.sublist_append_left (settings.implementationBefore front back)
      (settings.addedBlock front back shader)
    have hUnload := List.sublist_append_left (settings.implementationBetween front back)
      [shader.releaseLine settings]
    simpa only [List.append_assoc] using (hLoad.append hUnload).append_right _

/-- The shaders in front of those that are added are generalised, since the induction goes through the
lists from the front. -/
theorem linesKept_append (hPart : back.Sublist more) :
    settings.LinesKept (.ofList (front ++ back)) (.ofList (front ++ more)) := by
  induction hPart generalizing front with
  | slnil => exact ⟨.refl _, .refl _⟩
  | cons shader _ ih => exact ih.trans linesKept_insert
  | cons_cons shader _ ih =>
    have hRest := @ih (front ++ [shader])
    rwa [List.append_assoc, List.append_assoc] at hRest

/-- Adding any number of shaders anywhere removes no line of the two texts and changes none. -/
theorem linesKept_of_sublist {part whole : Registry} (hPart : part.toList.Sublist whole.toList) :
    settings.LinesKept part whole := by
  have hFront : settings.LinesKept (.ofList ([] ++ part.toList)) (.ofList ([] ++ whole.toList)) :=
    linesKept_append hPart
  exact hFront

end

end Settings

end ShaderHandles
