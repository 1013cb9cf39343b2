import ShaderHandles.Proofs.Artifacts.Layout

/-!
# The separator in the bytes of the fingerprint

The fingerprint is made of the bytes of the header, the zero character and the bytes of the source
file. A header of C has no zero character, but a text may hold one, and then the bytes do not say at
which of the zero characters the header ends. Two pairs have the same bytes exactly if they are the
same, or if the header of one goes on behind a zero character with what the source file of the other
begins with. This is not out of reach of generation, which writes the values of the settings as they
are.

* `Artifacts.Continues`: one pair with the same bytes as another and a longer header.
* `Artifacts.sameBytes_iff`: the pairs that the bytes do not tell apart, and what is missing to do it.
* `Settings.artifacts_withNames_continues`: for all settings and every registry there are two names of
  headers for which generation gives such pairs.
* `Artifacts.not_separated`: different pairs with the same bytes.
-/

namespace ShaderHandles

/-! ## Lists with a separator -/

section

variable {α : Type} {mark : α} {first second rest other : List α}

/-- A list in which a separator may stand at several places is cut at two of them. -/
theorem append_mark_eq_append_mark_iff :
    first ++ mark :: rest = second ++ mark :: other ↔
      (first = second ∧ rest = other) ∨
        (∃ between, second = first ++ mark :: between ∧ rest = between ++ mark :: other) ∨
          ∃ between, first = second ++ mark :: between ∧ other = between ++ mark :: rest := by
  constructor
  · intro hEq
    rcases List.append_eq_append_iff.mp hEq with ⟨more, hSecond, hRest⟩ | ⟨more, hFirst, hOther⟩
    · cases more with
      | nil =>
        rw [List.append_nil] at hSecond
        exact .inl ⟨hSecond.symm, List.tail_eq_of_cons_eq hRest⟩
      | cons c between =>
        obtain ⟨rfl, hTail⟩ := List.cons_eq_cons.mp hRest
        exact .inr (.inl ⟨between, hSecond, hTail⟩)
    · cases more with
      | nil =>
        rw [List.append_nil] at hFirst
        exact .inl ⟨hFirst, (List.tail_eq_of_cons_eq hOther).symm⟩
      | cons c between =>
        obtain ⟨rfl, hTail⟩ := List.cons_eq_cons.mp hOther
        exact .inr (.inr ⟨between, hFirst, hTail⟩)
  · rintro (⟨rfl, rfl⟩ | ⟨between, rfl, rfl⟩ | ⟨between, rfl, rfl⟩)
    · rfl
    · simp
    · simp

end

namespace Artifacts

/-! ## Pairs with the same bytes -/

/-- The header of `longer` is that of `shorter`, a zero character and `between`, with which the source
file of `shorter` begins. -/
structure Continues (shorter longer : Artifacts) (between : String) : Prop where
  interface : longer.interface = shorter.interface ++ "\x00" ++ between
  implementation : shorter.implementation = between ++ "\x00" ++ longer.implementation

/-- The number of zero characters in the header. -/
def zeros (artifacts : Artifacts) : Nat := artifacts.interface.toList.count '\x00'

variable {first second : Artifacts} {between : String}

/-- The bytes are those of the two texts with the zero character between them. -/
theorem fingerprintInput_eq (artifacts : Artifacts) :
    artifacts.fingerprintInput =
      (artifacts.interface ++ "\x00" ++ artifacts.implementation).toUTF8 := by
  have hZero : "\x00".toUTF8 = ByteArray.mk #[0] := by decide
  have hPush (bytes : ByteArray) : bytes.push 0 = bytes ++ "\x00".toUTF8 := by
    rw [hZero]
    exact ByteArray.ext (by simp)
  rw [fingerprintInput, hPush, String.toUTF8, String.toUTF8, String.toUTF8, String.toUTF8,
    String.toByteArray_append, String.toByteArray_append]

theorem fingerprintInput_eq_iff_texts : first.fingerprintInput = second.fingerprintInput ↔
    first.interface.toList ++ '\x00' :: first.implementation.toList =
      second.interface.toList ++ '\x00' :: second.implementation.toList := by
  have hZero : "\x00".toList = ['\x00'] := rfl
  rw [fingerprintInput_eq, fingerprintInput_eq, String.toUTF8, String.toUTF8,
    String.toByteArray_inj, ← String.toList_inj]
  simp only [String.toList_append, hZero, List.append_assoc, List.cons_append, List.nil_append]

theorem eq_iff_texts : first = second ↔
    first.interface.toList = second.interface.toList ∧
      first.implementation.toList = second.implementation.toList := by
  cases first
  cases second
  rw [Artifacts.mk.injEq, String.toList_inj, String.toList_inj]

theorem continues_iff_texts : first.Continues second between ↔
    second.interface.toList = first.interface.toList ++ '\x00' :: between.toList ∧
      first.implementation.toList = between.toList ++ '\x00' :: second.implementation.toList := by
  have hZero : "\x00".toList = ['\x00'] := rfl
  constructor
  · rintro ⟨hInterface, hImplementation⟩
    rw [hInterface, hImplementation]
    simp only [String.toList_append, hZero, List.append_assoc, List.cons_append, List.nil_append,
      and_self]
  · rintro ⟨hInterface, hImplementation⟩
    constructor
    · rw [← String.toList_inj, hInterface]
      simp only [String.toList_append, hZero, List.append_assoc, List.cons_append, List.nil_append]
    · rw [← String.toList_inj, hImplementation]
      simp only [String.toList_append, hZero, List.append_assoc, List.cons_append, List.nil_append]

theorem exists_continues_iff_texts : (∃ between, first.Continues second between) ↔
    ∃ between : List Char,
      second.interface.toList = first.interface.toList ++ '\x00' :: between ∧
        first.implementation.toList = between ++ '\x00' :: second.implementation.toList := by
  simp only [continues_iff_texts]
  constructor
  · exact fun ⟨between, h⟩ => ⟨between.toList, h⟩
  · rintro ⟨between, h⟩
    exact ⟨.ofList between, by rwa [String.toList_ofList]⟩

theorem fingerprintInput_eq_iff : first.fingerprintInput = second.fingerprintInput ↔
    first = second ∨ (∃ between, first.Continues second between) ∨
      ∃ between, second.Continues first between := by
  rw [fingerprintInput_eq_iff_texts, append_mark_eq_append_mark_iff, eq_iff_texts,
    exists_continues_iff_texts, exists_continues_iff_texts]

theorem Continues.zeros_lt (h : first.Continues second between) : first.zeros < second.zeros := by
  rw [zeros, zeros, (continues_iff_texts.mp h).1, List.count_append, List.count_cons_self]
  omega

theorem Continues.sameBytes (h : first.Continues second between) :
    first.fingerprintInput = second.fingerprintInput :=
  fingerprintInput_eq_iff.mpr (.inr (.inl ⟨between, h⟩))

/-- Two pairs have the same bytes exactly if they are the same, or if the header of one goes on with
the header of the other behind a zero character. A pair is determined by its bytes together with the
number of zero characters in its header. -/
theorem sameBytes_iff (first second : Artifacts) :
    (first.fingerprintInput = second.fingerprintInput ↔
      first = second ∨ (∃ between, first.Continues second between) ∨
        ∃ between, second.Continues first between) ∧
    (first = second ↔
      first.fingerprintInput = second.fingerprintInput ∧ first.zeros = second.zeros) := by
  refine ⟨fingerprintInput_eq_iff, fun hEq => hEq ▸ ⟨rfl, rfl⟩, ?_⟩
  rintro ⟨hBytes, hZeros⟩
  rcases fingerprintInput_eq_iff.mp hBytes with hEq | ⟨between, h⟩ | ⟨between, h⟩
  · exact hEq
  · exact absurd hZeros (Nat.ne_of_lt h.zeros_lt)
  · exact absurd hZeros (Nat.ne_of_gt h.zeros_lt)

end Artifacts

/-! ## Generated pairs -/

namespace Settings

/-- The settings with other names for the graphics header and for the file of the generated header. -/
def withNames (settings : Settings) (graphicsHeader headerFile : String) : Settings :=
  { settings with output := { settings.output with graphicsHeader, headerFile } }

/-- The header in front of the name of the graphics header. -/
def interfaceFront (settings : Settings) : String :=
  Template.lines ["/* FILE GENERATED BY " ++ settings.provenance ++ " */",
    "#ifndef " ++ settings.output.includeGuard,
    "#define " ++ settings.output.includeGuard] ++ "#include \""

/-- The header behind the name of the graphics header. -/
def interfaceBack (settings : Settings) (registry : Registry) : String :=
  "\"\n" ++ Template.lines ((settings.interfaceLines registry).drop 4)

/-- The source file in front of the name of the generated header. -/
def implementationFront (settings : Settings) : String :=
  Template.lines ["/* FILE GENERATED BY " ++ settings.provenance ++ " */", "#include <string.h>"] ++
    "#include \""

/-- The source file behind the name of the generated header. -/
def implementationBack (settings : Settings) (registry : Registry) : String :=
  "\"\n" ++ Template.lines ((settings.implementationLines registry).drop 3)

variable (settings : Settings) (registry : Registry) (graphicsHeader headerFile : String)

theorem lines_include (opening closing : List String) (name : String) :
    Template.lines (opening ++ ("#include \"" ++ name ++ "\"") :: closing) =
      Template.lines opening ++ "#include \"" ++ name ++ ("\"\n" ++ Template.lines closing) := by
  have hEnd : "\"\n" = "\"" ++ "\n" := rfl
  rw [Template.lines_append, Template.lines_cons, hEnd]
  simp only [String.append_assoc]

theorem interface_withNames :
    ((settings.withNames graphicsHeader headerFile).artifacts registry).interface =
      settings.interfaceFront ++ graphicsHeader ++ settings.interfaceBack registry := by
  have hLines : (settings.withNames graphicsHeader headerFile).interfaceLines registry =
      ["/* FILE GENERATED BY " ++ settings.provenance ++ " */",
        "#ifndef " ++ settings.output.includeGuard,
        "#define " ++ settings.output.includeGuard] ++
      ("#include \"" ++ graphicsHeader ++ "\"") :: (settings.interfaceLines registry).drop 4 := rfl
  rw [artifacts_interface, hLines, lines_include, interfaceFront, interfaceBack]

theorem implementation_withNames :
    ((settings.withNames graphicsHeader headerFile).artifacts registry).implementation =
      settings.implementationFront ++ headerFile ++ settings.implementationBack registry := by
  have hLines : (settings.withNames graphicsHeader headerFile).implementationLines registry =
      ["/* FILE GENERATED BY " ++ settings.provenance ++ " */", "#include <string.h>"] ++
      ("#include \"" ++ headerFile ++ "\"") :: (settings.implementationLines registry).drop 3 := rfl
  rw [artifacts_implementation, hLines, lines_include, implementationFront, implementationBack]

/-- What the header goes on with behind the name of the graphics header, and the source file in front of
the name of the generated header, with the separator between the two. -/
def seam : String :=
  settings.interfaceBack registry ++ "\x00" ++ settings.implementationFront

/-- For all settings and every registry the seam between the two texts can be moved from the name of
the generated header, which only the source file holds, to that of the graphics header, which only the
header holds. -/
theorem artifacts_withNames_continues :
    ((settings.withNames graphicsHeader (settings.seam registry ++ headerFile)).artifacts
      registry).Continues
        ((settings.withNames (graphicsHeader ++ settings.seam registry) headerFile).artifacts registry)
        (settings.implementationFront ++ settings.interfaceBack registry) where
  interface := by
    simp only [interface_withNames, seam, String.append_assoc]
  implementation := by
    simp only [implementation_withNames, seam, String.append_assoc]

end Settings

namespace Artifacts

/-- Two pairs, also generated ones, may have the same bytes and not the same texts. -/
theorem not_separated :
    (¬∀ first second : Artifacts, first.fingerprintInput = second.fingerprintInput →
      first.interface = second.interface ∧ first.implementation = second.implementation) ∧
    ¬∀ (settings other : Settings) (registry : Registry) (first second : Artifacts),
      (settings.generate registry).result = .ok first →
      (other.generate registry).result = .ok second →
      first.fingerprintInput = second.fingerprintInput →
        first.interface = second.interface ∧ first.implementation = second.implementation := by
  constructor
  · intro hApart
    have hContinues : Continues ⟨"a", "\x00b"⟩ ⟨"a\x00", "b"⟩ "" := ⟨rfl, rfl⟩
    have hTexts := hApart ⟨"a", "\x00b"⟩ ⟨"a\x00", "b"⟩ hContinues.sameBytes
    exact absurd hTexts.1 (by decide)
  · intro hApart
    have hGenerated (graphicsHeader headerFile : String) :
        ((({} : Settings).withNames graphicsHeader headerFile).generate .empty).result = .ok _ :=
      Settings.generate_result fun hValidate => nomatch (hValidate : false = true)
    have hShifted :=
      ({} : Settings).artifacts_withNames_continues .empty "glad.h" "shaders.gen.h"
    have hTexts := hApart _ _ .empty _ _ (hGenerated _ _) (hGenerated _ _) hShifted.sameBytes
    have hZeros := hShifted.zeros_lt
    rw [zeros, zeros, hTexts.1] at hZeros
    exact absurd hZeros (Nat.lt_irrefl _)

end Artifacts

end ShaderHandles
