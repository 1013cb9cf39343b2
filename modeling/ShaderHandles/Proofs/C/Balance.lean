import ShaderHandles.Proofs.C.Syntax

/-!
# Balanced brackets

Parentheses and braces of the generated C are closed in the order opposite to the one they are opened
in. The check goes through the tokens with the brackets that are still to be closed.

* `Balanced`: every bracket is closed by its own kind, and none is left open.
* `Neutral`: tokens that leave the brackets that are open around them as they are.
* `Header.balanced`, `Source.balanced`: both units are balanced.
-/

namespace ShaderHandles.C

/-- One token. `due` holds the closing brackets that are still to come, the next one first. -/
def nestToken (due : List Char) : Token → Option (List Char)
  | .mark '(' => some (')' :: due)
  | .opening => some ('\x7d' :: due)
  | .mark ')' => if due.head? = some ')' then some due.tail else none
  | .closing => if due.head? = some '\x7d' then some due.tail else none
  | _ => some due

/-- The brackets that are still to be closed after some tokens. -/
def nesting (due : List Char) : List Token → Option (List Char)
  | [] => some due
  | token :: rest => (nestToken due token).bind fun next => nesting next rest

/-- Every bracket is closed by its own kind, and none is left open. -/
def Balanced (tokens : List Token) : Prop := nesting [] tokens = some []

theorem nesting_append (due : List Char) (first second : List Token) :
    nesting due (first ++ second) =
      (nesting due first).bind fun next => nesting next second := by
  induction first generalizing due with
  | nil => rfl
  | cons token rest ih => simp [nesting, ih, Option.bind_assoc]

/-- Tokens that leave the brackets that are open around them as they are. -/
structure Neutral (tokens : List Token) : Prop where
  result : ∀ due, nesting due tokens = some due

namespace Neutral

variable {first second : List Token}

theorem balanced (h : Neutral first) : Balanced first := h.result []

theorem nil : Neutral [] := ⟨fun _ => rfl⟩

theorem append (hFirst : Neutral first) (hSecond : Neutral second) : Neutral (first ++ second) := by
  constructor
  intro due
  rw [nesting_append, hFirst.result, Option.bind_some, hSecond.result]

/-- A token that is no bracket. -/
theorem cons {token : Token} (hToken : ∀ due, nestToken due token = some due)
    (hRest : Neutral second) : Neutral (token :: second) := by
  constructor
  intro due
  rw [nesting, hToken, Option.bind_some, hRest.result]

theorem parentheses (hInner : Neutral first) : Neutral (wrap first) := by
  constructor
  intro due
  change nesting (')' :: due) (first ++ [.mark ')']) = some due
  rw [nesting_append, hInner.result]
  rfl

theorem braces (hInner : Neutral first) : Neutral (.opening :: (first ++ [.closing])) := by
  constructor
  intro due
  change nesting ('\x7d' :: due) (first ++ [.closing]) = some due
  rw [nesting_append, hInner.result]
  rfl

theorem intercalate {separator : Token} (hSeparator : ∀ due, nestToken due separator = some due)
    {parts : List (List Token)} (hParts : ∀ part ∈ parts, Neutral part) :
    Neutral ([separator].intercalate parts) := by
  induction parts with
  | nil => exact nil
  | cons part rest ih =>
    have hPart := hParts part List.mem_cons_self
    have hRest := ih fun other hOther => hParts other (List.mem_cons_of_mem part hOther)
    cases rest with
    | nil => simpa using hPart
    | cons next rest =>
      rw [List.intercalate_cons_of_ne_nil (List.cons_ne_nil next rest), List.append_assoc]
      exact hPart.append (cons hSeparator hRest)

end Neutral

/-! ## The parts of a unit -/

theorem Place.neutral (place : Place) : Neutral place.tokens := by
  refine .cons (fun _ => rfl) ?_
  induction place.members with
  | nil => exact .nil
  | cons member rest ih => exact .cons (fun _ => rfl) (.cons (fun _ => rfl) ih)

theorem Argument.neutral (argument : Argument) : Neutral argument.tokens := by
  cases argument with
  | place path => exact path.neutral
  | literal text => exact .cons (fun _ => rfl) .nil
  | number text => exact .cons (fun _ => rfl) .nil
  | addressOf name => exact .cons (fun _ => rfl) (.cons (fun _ => rfl) .nil)
  | sizeOf name => exact .cons (fun _ => rfl) (.parentheses (.cons (fun _ => rfl) .nil))

theorem Call.neutral (call : Call) : Neutral call.tokens := by
  refine .cons (fun _ => rfl) (.parentheses (.intercalate (fun _ => rfl) ?_))
  intro part hPart
  obtain ⟨argument, -, rfl⟩ := List.mem_map.mp hPart
  exact argument.neutral

/-- A sentence that stops with no brace. -/
theorem neutral_sentence {words : List Token} {stop : Token}
    (hStop : ∀ due, nestToken due stop = some due) (hWords : Neutral words) :
    Neutral (Sentence.tokens ⟨words, stop⟩) :=
  hWords.append (.cons hStop .nil)

/-- A sentence that opens a block, the block, and the sentence that closes it. -/
theorem neutral_block {words : List Token} {inner : List Sentence} (hWords : Neutral words)
    (hInner : Neutral (spelled inner)) :
    Neutral (spelled (⟨words, .opening⟩ :: (inner ++ [⟨[], .closing⟩]))) := by
  have hBlock := hWords.append hInner.braces
  have hTokens : spelled (⟨words, .opening⟩ :: (inner ++ [⟨[], .closing⟩])) =
      words ++ .opening :: (spelled inner ++ [.closing]) := by
    simp [spelled_append, Sentence.tokens]
  rwa [hTokens]

/-- The sentence after a struct that names it. -/
theorem neutral_structEnd {words : List Token} {inner : List Sentence} {name : String}
    (hWords : Neutral words) (hInner : Neutral (spelled inner)) :
    Neutral (spelled (⟨words, .opening⟩ ::
      (inner ++ [⟨[], .closing⟩, ⟨[.name name], .semicolon⟩]))) := by
  have hName : Neutral (spelled [⟨[.name name], .semicolon⟩]) :=
    .cons (fun _ => rfl) (.cons (fun _ => rfl) .nil)
  have hAll := (neutral_block hWords hInner).append hName
  rw [← spelled_append] at hAll
  simpa using hAll

mutual

theorem Statement.neutral : ∀ statement : Statement, Neutral (spelled statement.sentences)
  | .assign target call => by
    rw [Statement.sentences, spelled_cons, spelled_nil, List.append_nil]
    exact neutral_sentence (fun _ => rfl)
      (target.neutral.append (.cons (fun _ => rfl) call.neutral))
  | .call call => by
    rw [Statement.sentences, spelled_cons, spelled_nil, List.append_nil]
    exact neutral_sentence (fun _ => rfl) call.neutral
  | .check condition body => by
    rw [Statement.sentences]
    exact neutral_block (.cons (fun _ => rfl) condition.neutral.parentheses) (neutral_body body)

theorem neutral_body : ∀ body : List Statement, Neutral (spelled (bodySentences body))
  | [] => .nil
  | statement :: rest => by
    rw [bodySentences, spelled_append]
    exact statement.neutral.append (neutral_body rest)

end

mutual

theorem Member.neutral : ∀ member : Member, Neutral (spelled member.sentences)
  | .typed type name => by
    rw [Member.sentences]
    exact .cons (fun _ => rfl) (.cons (fun _ => rfl) (.cons (fun _ => rfl) .nil))
  | .struct members name => by
    rw [Member.sentences]
    exact neutral_structEnd (.cons (fun _ => rfl) .nil) (neutral_members members)

theorem neutral_members : ∀ members : List Member, Neutral (spelled (memberSentences members))
  | [] => .nil
  | member :: rest => by
    rw [memberSentences, spelled_append]
    exact member.neutral.append (neutral_members rest)

end

theorem neutral_signature (name : String) : Neutral (signature name) :=
  .cons (fun _ => rfl) (.cons (fun _ => rfl) (.parentheses (.cons (fun _ => rfl) .nil)))

theorem Typedef.neutral (type : Typedef) : Neutral (spelled type.sentences) := by
  rw [sentences]
  exact neutral_structEnd
    (.cons (fun _ => rfl) (.cons (fun _ => rfl) (.cons (fun _ => rfl) .nil)))
    (neutral_members type.members)

theorem Function.neutral (function : Function) : Neutral (spelled function.sentences) := by
  rw [sentences]
  exact neutral_block (neutral_signature function.name) (neutral_body function.body)

theorem neutral_spelled {list : List Sentence}
    (hSentences : ∀ sentence ∈ list, Neutral sentence.tokens) : Neutral (spelled list) := by
  induction list with
  | nil => exact .nil
  | cons sentence rest ih =>
    rw [spelled_cons]
    exact (hSentences sentence List.mem_cons_self).append
      (ih fun other hOther => hSentences other (List.mem_cons_of_mem sentence hOther))

theorem neutral_includes (includes : List Include) :
    Neutral (spelled (includes.map Include.sentence)) := by
  apply neutral_spelled
  intro sentence hSentence
  obtain ⟨first, -, rfl⟩ := List.mem_map.mp hSentence
  cases first <;> exact ⟨fun _ => rfl⟩

theorem neutral_prototypes (names : List String) :
    Neutral (spelled (names.map fun name => ⟨signature name, .semicolon⟩)) := by
  apply neutral_spelled
  intro sentence hSentence
  obtain ⟨name, -, rfl⟩ := List.mem_map.mp hSentence
  exact neutral_sentence (fun _ => rfl) (neutral_signature name)

/-- Brackets of a header are balanced. -/
theorem Header.balanced (header : Header) : Balanced (spelled header.sentences) := by
  have hGuard : Neutral (spelled [directive "ifndef" [.name header.guard],
      directive "define" [.name header.guard]]) := ⟨fun _ => rfl⟩
  have hObject : Neutral (spelled
      [⟨[.keyword "extern", .name header.object.type, .name header.object.name], .semicolon⟩]) :=
    ⟨fun _ => rfl⟩
  have hEnd : Neutral (spelled [directive "endif" []]) := ⟨fun _ => rfl⟩
  have hAll := hGuard.append <| (neutral_includes header.includes).append <|
    header.shared.neutral.append <| header.container.neutral.append <| hObject.append <|
    (neutral_prototypes header.prototypes).append hEnd
  simp only [← spelled_append] at hAll
  simpa [sentences] using hAll.balanced

/-- Brackets of a source file are balanced. -/
theorem Source.balanced (source : Source) : Balanced (spelled source.sentences) := by
  have hObject : Neutral (spelled
      [⟨[.name source.object.type, .name source.object.name], .semicolon⟩]) := ⟨fun _ => rfl⟩
  have hAll := (neutral_includes source.includes).append <| hObject.append <|
    source.load.neutral.append source.unload.neutral
  simp only [← spelled_append] at hAll
  simpa [sentences] using hAll.balanced

end ShaderHandles.C
