import ShaderHandles.Proofs.C.Syntax

/-!
# Reading the generated C

A unit is read in three steps: its characters as tokens, the tokens as sentences, and the sentences
as a tree. Nested structs and bodies are read with a stack of what is open around them. Every tree is
read back from the sentences it is written with.

* `readHeader`, `readSource`: the unit of a text.
* `sentences_spelled`: the tokens of sentences are taken apart into these sentences.
* `Header.read_sentences`, `Source.read_sentences`: reading undoes writing.
-/

namespace ShaderHandles.C

/-! ## Sentences -/

/-- Whether a token stops a sentence. -/
def Token.isStop : Token → Bool
  | .semicolon | .opening | .closing | .lineEnd => true
  | _ => false

/-- The sentences of some tokens. `current` holds the words of the open sentence, last one first; at
the end no sentence may be open. -/
def sentences (current : List Token) : List Token → Option (List Sentence)
  | [] => if current.isEmpty then some [] else none
  | token :: rest =>
    if token.isStop then
      (sentences [] rest).map (⟨current.reverse, token⟩ :: ·)
    else sentences (token :: current) rest

/-! ## Calls and simple statements -/

/-- The tokens between a parenthesis at the start and one at the end. -/
def unwrap : List Token → Option (List Token)
  | .mark '(' :: rest => if rest.getLast? = some (.mark ')') then some rest.dropLast else none
  | _ => none

/-- The members of a place, each after a dot. -/
def readPath : List Token → Option (List String)
  | [] => some []
  | .mark '.' :: .name member :: rest => (readPath rest).map (member :: ·)
  | _ => none

def readPlace : List Token → Option Place
  | .name root :: rest => (readPath rest).map (⟨root, ·⟩)
  | _ => none

def readArgument : List Token → Option Argument
  | [.literal text] => some (.literal text)
  | [.number text] => some (.number text)
  | [.mark '&', .name name] => some (.addressOf name)
  | [.keyword "sizeof", .mark '(', .name name, .mark ')'] => some (.sizeOf name)
  | words => (readPlace words).map .place

def readArguments (words : List Token) : Option (List Argument) :=
  if words.isEmpty then some [] else (words.splitOn (.mark ',')).mapM readArgument

def readCall : List Token → Option Call
  | .name function :: rest =>
    (unwrap rest).bind fun inner => (readArguments inner).map (⟨function, ·⟩)
  | _ => none

/-- An assignment or a call, without its semicolon. -/
def readSimple (words : List Token) : Option Statement :=
  match words.splitOn (.mark '=') with
  | [call] => (readCall call).map .call
  | [target, value] =>
    (readPlace target).bind fun place => (readCall value).map (.assign place)
  | _ => none

/-- The condition of a check, without the brace after it. -/
def readCheck : List Token → Option Call
  | .keyword "if" :: rest => (unwrap rest).bind readCall
  | _ => none

/-! ## Bodies and structs -/

/-- The statements of a body up to the brace that closes it, and the sentences after that brace.
`current` holds the statements before in the same body, and `outer` the checks that are open around
it, each with the statements before it. -/
def readBody (outer : List (Call × List Statement)) (current : List Statement) :
    List Sentence → Option (List Statement × List Sentence)
  | [] => none
  | ⟨words, .semicolon⟩ :: rest =>
    (readSimple words).bind fun statement => readBody outer (current ++ [statement]) rest
  | ⟨words, .opening⟩ :: rest =>
    (readCheck words).bind fun condition => readBody ((condition, current) :: outer) [] rest
  | ⟨[], .closing⟩ :: rest =>
    match outer with
    | [] => some (current, rest)
    | (condition, before) :: outer => readBody outer (before ++ [.check condition current]) rest
  | _ => none

/-- The members of a struct, its name after the brace that closes it, and the sentences after that.
`current` holds the members before in the same struct, and `outer` those in the structs around it. -/
def readMembers (outer : List (List Member)) (current : List Member) :
    List Sentence → Option (List Member × String × List Sentence)
  | ⟨[.keyword "struct"], .opening⟩ :: rest => readMembers (current :: outer) [] rest
  | ⟨[.name type, .name name], .semicolon⟩ :: rest =>
    readMembers outer (current ++ [.typed type name]) rest
  | ⟨[], .closing⟩ :: ⟨[.name name], .semicolon⟩ :: rest =>
    match outer with
    | [] => some (current, name, rest)
    | before :: outer => readMembers outer (before ++ [.struct current name]) rest
  | _ => none

/-! ## Units -/

def readTypedef : List Sentence → Option (Typedef × List Sentence)
  | ⟨[.keyword "typedef", .keyword "struct", .name tag], .opening⟩ :: rest =>
    (readMembers [] [] rest).map fun (members, name, rest) => (⟨tag, members, name⟩, rest)
  | _ => none

/-- The name of a function from what stands before the stop of its prototype or definition. -/
def readSignature : List Token → Option String
  | [.keyword "void", .name name, .mark '(', .keyword "void", .mark ')'] => some name
  | _ => none

def readFunction : List Sentence → Option (Function × List Sentence)
  | ⟨words, .opening⟩ :: rest =>
    (readSignature words).bind fun name =>
      (readBody [] [] rest).map fun (body, rest) => (⟨name, body⟩, rest)
  | _ => none

/-- The directives at the front that include a header, and what is left. -/
def readIncludes : List Sentence → List Include × List Sentence
  | ⟨[.mark '#', .name "include", .header name], .lineEnd⟩ :: rest =>
    let (includes, rest) := readIncludes rest
    (.system name :: includes, rest)
  | ⟨[.mark '#', .name "include", .literal name], .lineEnd⟩ :: rest =>
    let (includes, rest) := readIncludes rest
    (.quoted name :: includes, rest)
  | rest => ([], rest)

/-- Prototypes, then the end of the include guard as the last sentence. -/
def readPrototypes : List Sentence → Option (List String)
  | [⟨[.mark '#', .name "endif"], .lineEnd⟩] => some []
  | ⟨words, .semicolon⟩ :: rest =>
    (readSignature words).bind fun name => (readPrototypes rest).map (name :: ·)
  | _ => none

/-- The macro of an include guard that the sentences begin with, and what is left. -/
def readGuard : List Sentence → Option (String × List Sentence)
  | ⟨[.mark '#', .name "ifndef", .name guard], .lineEnd⟩ ::
      ⟨[.mark '#', .name "define", .name macroName], .lineEnd⟩ :: rest =>
    if macroName = guard then some (guard, rest) else none
  | _ => none

def Header.read (sentences : List Sentence) : Option Header := do
  let (guard, rest) ← readGuard sentences
  let (includes, rest) := readIncludes rest
  let (shared, rest) ← readTypedef rest
  let (container, rest) ← readTypedef rest
  match rest with
  | ⟨[.keyword "extern", .name type, .name name], .semicolon⟩ :: rest =>
    let prototypes ← readPrototypes rest
    return { guard, includes, shared, container, object := ⟨type, name⟩, prototypes }
  | _ => none

def Source.read (sentences : List Sentence) : Option Source := do
  let (includes, rest) := readIncludes sentences
  match rest with
  | ⟨[.name type, .name name], .semicolon⟩ :: rest =>
    let (load, rest) ← readFunction rest
    let (unload, rest) ← readFunction rest
    if rest.isEmpty then return { includes, object := ⟨type, name⟩, load, unload } else none
  | _ => none

/-- The header that a text is. -/
def readHeader (text : String) : Option Header :=
  (tokens text).bind fun found => (sentences [] found).bind Header.read

/-- The source file that a text is. -/
def readSource (text : String) : Option Source :=
  (tokens text).bind fun found => (sentences [] found).bind Source.read

/-! ## Calls are read back -/

/-- A token that may stand in a call: none that stops a sentence, and no sign of an assignment. -/
def Token.isInner : Token → Bool
  | .mark c => c ∈ ['(', ')', ',', '.', '&']
  | .lineEnd => false
  | .keyword _ | .name _ | .number _ | .literal _ | .header _ => true

theorem isInner_of_mem_wrap {inner : List Token} (hInner : ∀ token ∈ inner, token.isInner = true) :
    ∀ token ∈ wrap inner, token.isInner = true := by
  intro token hToken
  simp only [wrap, List.mem_cons, List.mem_append, List.not_mem_nil, or_false] at hToken
  rcases hToken with rfl | hToken | rfl
  · rfl
  · exact hInner token hToken
  · rfl

theorem unwrap_wrap (inner : List Token) : unwrap (wrap inner) = some inner := by
  simp [wrap, unwrap]

namespace Place

theorem isInner_of_mem_tokens {place : Place} : ∀ token ∈ place.tokens, token.isInner = true := by
  intro token hToken
  simp only [tokens, List.mem_cons, List.mem_flatMap, List.not_mem_nil, or_false] at hToken
  rcases hToken with rfl | ⟨member, -, rfl | rfl⟩ <;> rfl

theorem readPath_tokens (members : List String) :
    readPath (members.flatMap fun member => [.mark '.', .name member]) = some members := by
  induction members with
  | nil => rfl
  | cons member rest ih =>
    rw [List.flatMap_cons]
    change (readPath (rest.flatMap _)).map (member :: ·) = _
    rw [ih]
    rfl

theorem read_tokens (place : Place) : readPlace place.tokens = some place := by
  rw [tokens, readPlace, readPath_tokens]
  rfl

end Place

namespace Argument

theorem isInner_of_mem_tokens {argument : Argument} :
    ∀ token ∈ argument.tokens, token.isInner = true := by
  cases argument with
  | place path => exact Place.isInner_of_mem_tokens
  | literal text => simp [tokens, Token.isInner]
  | number text => simp [tokens, Token.isInner]
  | addressOf name => simp [tokens, Token.isInner]
  | sizeOf name => simp [tokens, wrap, Token.isInner]

theorem comma_not_mem_tokens (argument : Argument) : .mark ',' ∉ argument.tokens := by
  cases argument <;> simp [tokens, Place.tokens, wrap]

theorem tokens_ne_nil (argument : Argument) : argument.tokens ≠ [] := by
  cases argument <;> simp [tokens, Place.tokens]

theorem read_tokens (argument : Argument) : readArgument argument.tokens = some argument := by
  cases argument with
  | place path =>
    have hRead : readArgument path.tokens = (readPlace path.tokens).map .place := by
      rw [Place.tokens]
      rfl
    rw [tokens, hRead, Place.read_tokens]
    rfl
  | literal text => rfl
  | number text => rfl
  | addressOf name => rfl
  | sizeOf name => rfl

end Argument

theorem isInner_of_mem_argumentTokens {arguments : List Argument} :
    ∀ token ∈ argumentTokens arguments, token.isInner = true := by
  induction arguments with
  | nil => simp [argumentTokens]
  | cons argument rest ih =>
    cases rest with
    | nil =>
      simpa [argumentTokens] using Argument.isInner_of_mem_tokens
    | cons next rest =>
      have hRest : (next :: rest).map Argument.tokens ≠ [] := List.cons_ne_nil _ _
      intro token hToken
      rw [argumentTokens, List.map_cons, List.intercalate_cons_of_ne_nil hRest] at hToken
      simp only [List.mem_append, List.mem_singleton] at hToken
      rcases hToken with (hToken | rfl) | hToken
      · exact Argument.isInner_of_mem_tokens token hToken
      · rfl
      · exact ih token hToken

theorem mapM_readArgument (arguments : List Argument) :
    (arguments.map Argument.tokens).mapM readArgument = some arguments := by
  induction arguments with
  | nil => rfl
  | cons argument rest ih => simp [Argument.read_tokens, ih]

theorem readArguments_tokens (arguments : List Argument) :
    readArguments (argumentTokens arguments) = some arguments := by
  cases arguments with
  | nil => rfl
  | cons argument rest =>
    have hSplit : (argumentTokens (argument :: rest)).splitOn (.mark ',') =
        (argument :: rest).map Argument.tokens := by
      apply List.splitOn_intercalate
      · intro words hWords
        obtain ⟨other, -, rfl⟩ := List.mem_map.mp hWords
        exact other.comma_not_mem_tokens
      · exact List.cons_ne_nil _ _
    have hNonempty : (argumentTokens (argument :: rest)).isEmpty = false := by
      rw [List.isEmpty_eq_false_iff]
      intro hNil
      rw [hNil] at hSplit
      exact argument.tokens_ne_nil (List.head_eq_of_cons_eq hSplit).symm
    rw [readArguments, hNonempty, hSplit, mapM_readArgument]
    rfl

namespace Call

theorem isInner_of_mem_tokens {call : Call} : ∀ token ∈ call.tokens, token.isInner = true := by
  intro token hToken
  rcases List.mem_cons.mp hToken with rfl | hToken
  · rfl
  · exact isInner_of_mem_wrap isInner_of_mem_argumentTokens token hToken

theorem read_tokens (call : Call) : readCall call.tokens = some call := by
  rw [tokens, readCall, unwrap_wrap, Option.bind_some, readArguments_tokens]
  rfl

theorem readCheck_words (condition : Call) :
    readCheck condition.checkSentence.words = some condition := by
  rw [checkSentence, readCheck, unwrap_wrap, Option.bind_some, read_tokens]

theorem readSimple_tokens (call : Call) : readSimple call.tokens = some (.call call) := by
  have hSplit : call.tokens.splitOn (.mark '=') = [call.tokens] := by
    apply List.splitOn_eq_singleton
    exact fun hMem => Bool.false_ne_true (isInner_of_mem_tokens _ hMem)
  rw [readSimple, hSplit]
  simp only [read_tokens, Option.map_some]

theorem readSimple_assign (target : Place) (call : Call) :
    readSimple (target.tokens ++ .mark '=' :: call.tokens) = some (.assign target call) := by
  have hTarget : .mark '=' ∉ target.tokens :=
    fun hMem => Bool.false_ne_true (Place.isInner_of_mem_tokens _ hMem)
  have hValue : call.tokens.splitOn (.mark '=') = [call.tokens] := by
    apply List.splitOn_eq_singleton
    exact fun hMem => Bool.false_ne_true (isInner_of_mem_tokens _ hMem)
  rw [readSimple, List.splitOn_append_cons_self_of_not_mem hTarget, hValue]
  simp only [Place.read_tokens, read_tokens, Option.bind_some, Option.map_some]

end Call

/-! ## Bodies and structs are read back -/

mutual

theorem readBody_statement (outer : List (Call × List Statement)) (current : List Statement)
    (rest : List Sentence) :
    ∀ statement : Statement,
      readBody outer current (statement.sentences ++ rest) =
        readBody outer (current ++ [statement]) rest
  | .assign target call => by
    rw [Statement.sentences, List.cons_append, List.nil_append, readBody, Call.readSimple_assign,
      Option.bind_some]
  | .call call => by
    rw [Statement.sentences, List.cons_append, List.nil_append, readBody, Call.readSimple_tokens,
      Option.bind_some]
  | .check condition body => by
    have hWords : readCheck (.keyword "if" :: wrap condition.tokens) = some condition :=
      condition.readCheck_words
    rw [Statement.sentences, List.cons_append, List.append_assoc, Call.checkSentence, readBody,
      hWords, Option.bind_some, readBody_append, List.nil_append, List.cons_append, readBody]
    rfl

theorem readBody_append (outer : List (Call × List Statement)) (current : List Statement)
    (rest : List Sentence) :
    ∀ body : List Statement,
      readBody outer current (bodySentences body ++ rest) = readBody outer (current ++ body) rest
  | [] => by rw [bodySentences, List.nil_append, List.append_nil]
  | statement :: body => by
    rw [bodySentences, List.append_assoc, readBody_statement, readBody_append, List.append_assoc]
    rfl

end

mutual

theorem readMembers_member (outer : List (List Member)) (current : List Member)
    (rest : List Sentence) :
    ∀ member : Member,
      readMembers outer current (member.sentences ++ rest) =
        readMembers outer (current ++ [member]) rest
  | .typed type name => by
    rw [Member.sentences, List.cons_append, List.nil_append, readMembers]
  | .struct members name => by
    rw [Member.sentences, List.cons_append, List.append_assoc, readMembers, readMembers_append,
      List.nil_append, List.cons_append, List.cons_append, readMembers]
    rfl

theorem readMembers_append (outer : List (List Member)) (current : List Member)
    (rest : List Sentence) :
    ∀ members : List Member,
      readMembers outer current (memberSentences members ++ rest) =
        readMembers outer (current ++ members) rest
  | [] => by rw [memberSentences, List.nil_append, List.append_nil]
  | member :: members => by
    rw [memberSentences, List.append_assoc, readMembers_member, readMembers_append,
      List.append_assoc]
    rfl

end

/-! ## Units are read back -/

theorem readTypedef_sentences (type : Typedef) (rest : List Sentence) :
    readTypedef (type.sentences ++ rest) = some (type, rest) := by
  rw [Typedef.sentences, List.cons_append, readTypedef, List.append_assoc, readMembers_append,
    List.nil_append, List.cons_append, List.cons_append, readMembers]
  rfl

theorem readFunction_sentences (function : Function) (rest : List Sentence) :
    readFunction (function.sentences ++ rest) = some (function, rest) := by
  have hName : readSignature (signature function.name) = some function.name := rfl
  rw [Function.sentences, List.cons_append, readFunction, hName, Option.bind_some,
    List.append_assoc, readBody_append, List.nil_append, List.cons_append, readBody]
  rfl

theorem readIncludes_sentences (includes : List Include) {words : List Token} {stop : Token}
    {rest : List Sentence} (hStop : stop ≠ .lineEnd) :
    readIncludes (includes.map Include.sentence ++ ⟨words, stop⟩ :: rest) =
      (includes, ⟨words, stop⟩ :: rest) := by
  induction includes with
  | nil =>
    rw [List.map_nil, List.nil_append, readIncludes]
    all_goals
      intro name others hEq
      exact hStop (congrArg Sentence.stop (List.head_eq_of_cons_eq hEq))
  | cons first others ih =>
    cases first with
    | system name =>
      rw [List.map_cons, List.cons_append, Include.sentence, directive, readIncludes, ih]
    | quoted name =>
      rw [List.map_cons, List.cons_append, Include.sentence, directive, readIncludes, ih]

theorem readPrototypes_sentences (names : List String) :
    readPrototypes ((names.map fun name => ⟨signature name, .semicolon⟩) ++
      [directive "endif" []]) = some names := by
  induction names with
  | nil => rfl
  | cons name rest ih =>
    have hName : readSignature (signature name) = some name := rfl
    rw [List.map_cons, List.cons_append, readPrototypes, hName, Option.bind_some, ih]
    rfl

/-- Reading a header undoes writing it. -/
theorem Header.read_sentences (header : Header) : Header.read header.sentences = some header := by
  have hGuard (rest : List Sentence) : readGuard (directive "ifndef" [.name header.guard] ::
      directive "define" [.name header.guard] :: rest) = some (header.guard, rest) := by
    rw [directive, directive, readGuard, if_pos rfl]
  have hIncludes (rest : List Sentence) :
      readIncludes (header.includes.map Include.sentence ++ (header.shared.sentences ++ rest)) =
        (header.includes, header.shared.sentences ++ rest) := by
    rw [Typedef.sentences, List.cons_append]
    exact readIncludes_sentences header.includes (fun h => nomatch h)
  simp only [sentences, List.append_assoc, read, hGuard, hIncludes, readTypedef_sentences,
    Option.bind_eq_bind, Option.bind_some, List.cons_append, List.nil_append,
    readPrototypes_sentences]
  rfl

/-- Reading a source file undoes writing it. -/
theorem Source.read_sentences (source : Source) : Source.read source.sentences = some source := by
  have hIncludes (rest : List Sentence) :
      readIncludes (source.includes.map Include.sentence ++
        ⟨[.name source.object.type, .name source.object.name], .semicolon⟩ :: rest) =
        (source.includes, ⟨[.name source.object.type, .name source.object.name], .semicolon⟩ :: rest) :=
    readIncludes_sentences source.includes (fun h => nomatch h)
  have hUnload : readFunction source.unload.sentences = some (source.unload, []) := by
    rw [← List.append_nil source.unload.sentences, readFunction_sentences]
  simp only [sentences, List.append_assoc, read, hIncludes, readFunction_sentences, hUnload,
    Option.bind_eq_bind, Option.bind_some, List.cons_append, List.nil_append]
  rfl

/-! ## Sentences are found again -/

namespace Sentence

/-- A sentence whose last token, and no other, stops it. -/
structure Closed (sentence : Sentence) : Prop where
  words : ∀ token ∈ sentence.words, token.isStop = false
  stop : sentence.stop.isStop = true

theorem isStop_eq_false_of_isInner {token : Token} (hInner : token.isInner = true) :
    token.isStop = false := by
  cases token with
  | mark c =>
    simp only [Token.isInner, List.mem_cons, List.not_mem_nil, or_false, decide_eq_true_eq] at hInner
    rcases hInner with rfl | rfl | rfl | rfl | rfl <;> rfl
  | lineEnd => exact absurd hInner Bool.false_ne_true
  | _ => rfl

theorem closed_of_isInner {words : List Token} {stop : Token}
    (hWords : ∀ token ∈ words, token.isInner = true) (hStop : stop.isStop = true) :
    Closed ⟨words, stop⟩ :=
  ⟨fun token hToken => isStop_eq_false_of_isInner (hWords token hToken), hStop⟩

end Sentence

theorem sentences_words {words : List Token} (hWords : ∀ token ∈ words, token.isStop = false)
    (current rest : List Token) :
    sentences current (words ++ rest) = sentences (words.reverse ++ current) rest := by
  induction words generalizing current with
  | nil => rfl
  | cons token others ih =>
    rw [List.cons_append, sentences, hWords token List.mem_cons_self]
    simp only [Bool.false_eq_true, if_false]
    rw [ih fun other hOther => hWords other (List.mem_cons_of_mem token hOther)]
    simp

/-- The tokens of closed sentences are taken apart into these sentences. -/
theorem sentences_spelled {list : List Sentence} (hClosed : ∀ sentence ∈ list, sentence.Closed) :
    sentences [] (spelled list) = some list := by
  induction list with
  | nil => rfl
  | cons sentence rest ih =>
    have hFirst := hClosed sentence List.mem_cons_self
    rw [spelled_cons, Sentence.tokens, List.append_assoc, sentences_words hFirst.words,
      List.append_nil, List.cons_append, List.nil_append, sentences, if_pos hFirst.stop,
      ih fun other hOther => hClosed other (List.mem_cons_of_mem sentence hOther),
      List.reverse_reverse]
    rfl

mutual

theorem closed_of_mem_statement :
    ∀ statement : Statement, ∀ sentence ∈ statement.sentences, sentence.Closed
  | .assign target call => by
    intro sentence hSentence
    rw [Statement.sentences, List.mem_singleton] at hSentence
    subst hSentence
    refine ⟨fun token hToken => ?_, rfl⟩
    rcases List.mem_append.mp hToken with hToken | hToken
    · exact Sentence.isStop_eq_false_of_isInner (Place.isInner_of_mem_tokens token hToken)
    · rcases List.mem_cons.mp hToken with rfl | hToken
      · rfl
      · exact Sentence.isStop_eq_false_of_isInner (Call.isInner_of_mem_tokens token hToken)
  | .call call => by
    intro sentence hSentence
    rw [Statement.sentences, List.mem_singleton] at hSentence
    subst hSentence
    exact Sentence.closed_of_isInner Call.isInner_of_mem_tokens rfl
  | .check condition body => by
    intro sentence hSentence
    rw [Statement.sentences, List.mem_cons, List.mem_append, List.mem_singleton] at hSentence
    rcases hSentence with rfl | hSentence | rfl
    · refine Sentence.closed_of_isInner (fun token hToken => ?_) rfl
      rcases List.mem_cons.mp hToken with rfl | hToken
      · rfl
      · exact isInner_of_mem_wrap Call.isInner_of_mem_tokens token hToken
    · exact closed_of_mem_body body sentence hSentence
    · exact ⟨fun token hToken => absurd hToken List.not_mem_nil, rfl⟩

theorem closed_of_mem_body :
    ∀ body : List Statement, ∀ sentence ∈ bodySentences body, sentence.Closed
  | [] => fun sentence hSentence => absurd hSentence List.not_mem_nil
  | statement :: rest => by
    intro sentence hSentence
    rcases List.mem_append.mp hSentence with hSentence | hSentence
    · exact closed_of_mem_statement statement sentence hSentence
    · exact closed_of_mem_body rest sentence hSentence

end

/-- The sentences that close a struct. -/
theorem closed_of_mem_structEnd {name : String} :
    ∀ sentence ∈ [⟨[], .closing⟩, ⟨[.name name], .semicolon⟩], Sentence.Closed sentence := by
  intro sentence hSentence
  rw [List.mem_cons, List.mem_singleton] at hSentence
  rcases hSentence with rfl | rfl
  · exact ⟨fun token hToken => absurd hToken List.not_mem_nil, rfl⟩
  · exact Sentence.closed_of_isInner (by simp [Token.isInner]) rfl

mutual

theorem closed_of_mem_member :
    ∀ member : Member, ∀ sentence ∈ member.sentences, sentence.Closed
  | .typed type name => by
    intro sentence hSentence
    rw [Member.sentences, List.mem_singleton] at hSentence
    subst hSentence
    exact Sentence.closed_of_isInner (by simp [Token.isInner]) rfl
  | .struct members name => by
    intro sentence hSentence
    rw [Member.sentences, List.mem_cons, List.mem_append] at hSentence
    rcases hSentence with rfl | hSentence | hSentence
    · exact Sentence.closed_of_isInner (by simp [Token.isInner]) rfl
    · exact closed_of_mem_members members sentence hSentence
    · exact closed_of_mem_structEnd sentence hSentence

theorem closed_of_mem_members :
    ∀ members : List Member, ∀ sentence ∈ memberSentences members, sentence.Closed
  | [] => fun sentence hSentence => absurd hSentence List.not_mem_nil
  | member :: rest => by
    intro sentence hSentence
    rcases List.mem_append.mp hSentence with hSentence | hSentence
    · exact closed_of_mem_member member sentence hSentence
    · exact closed_of_mem_members rest sentence hSentence

end

theorem closed_signature {name : String} {stop : Token} (hStop : stop.isStop = true) :
    Sentence.Closed ⟨signature name, stop⟩ :=
  Sentence.closed_of_isInner (by simp [signature, wrap, Token.isInner]) hStop

theorem closed_of_mem_typedef {type : Typedef} :
    ∀ sentence ∈ type.sentences, sentence.Closed := by
  intro sentence hSentence
  rw [Typedef.sentences, List.mem_cons, List.mem_append] at hSentence
  rcases hSentence with rfl | hSentence | hSentence
  · exact Sentence.closed_of_isInner (by simp [Token.isInner]) rfl
  · exact closed_of_mem_members type.members sentence hSentence
  · exact closed_of_mem_structEnd sentence hSentence

theorem closed_of_mem_function {function : Function} :
    ∀ sentence ∈ function.sentences, sentence.Closed := by
  intro sentence hSentence
  rw [Function.sentences, List.mem_cons, List.mem_append, List.mem_singleton] at hSentence
  rcases hSentence with rfl | hSentence | rfl
  · exact closed_signature rfl
  · exact closed_of_mem_body function.body sentence hSentence
  · exact ⟨fun token hToken => absurd hToken List.not_mem_nil, rfl⟩

theorem closed_include {header : Include} : header.sentence.Closed := by
  cases header <;> exact ⟨by simp [directive, Include.sentence, Token.isStop], rfl⟩

theorem Header.closed_of_mem_sentences {header : Header} :
    ∀ sentence ∈ header.sentences, sentence.Closed := by
  intro sentence hSentence
  simp only [sentences, List.mem_cons, List.mem_append, List.mem_map, List.not_mem_nil,
    or_false] at hSentence
  rcases hSentence with rfl | rfl | ((((⟨first, -, rfl⟩ | hSentence) | hSentence) | rfl) |
    ⟨name, -, rfl⟩) | rfl
  · exact ⟨by simp [directive, Token.isStop], rfl⟩
  · exact ⟨by simp [directive, Token.isStop], rfl⟩
  · exact closed_include
  · exact closed_of_mem_typedef sentence hSentence
  · exact closed_of_mem_typedef sentence hSentence
  · exact Sentence.closed_of_isInner (by simp [Token.isInner]) rfl
  · exact closed_signature rfl
  · exact ⟨by simp [directive, Token.isStop], rfl⟩

theorem Source.closed_of_mem_sentences {source : Source} :
    ∀ sentence ∈ source.sentences, sentence.Closed := by
  intro sentence hSentence
  simp only [sentences, List.mem_append, List.mem_map, List.mem_singleton] at hSentence
  rcases hSentence with ((⟨first, -, rfl⟩ | rfl) | hSentence) | hSentence
  · exact closed_include
  · exact Sentence.closed_of_isInner (by simp [Token.isInner]) rfl
  · exact closed_of_mem_function sentence hSentence
  · exact closed_of_mem_function sentence hSentence

/-- A text with the tokens of a header is read as that header. -/
theorem readHeader_of_tokens {text : String} {header : Header}
    (hTokens : tokens text = some (spelled header.sentences)) : readHeader text = some header := by
  rw [readHeader, hTokens, Option.bind_some, sentences_spelled Header.closed_of_mem_sentences,
    Option.bind_some, header.read_sentences]

/-- A text with the tokens of a source file is read as that source file. -/
theorem readSource_of_tokens {text : String} {source : Source}
    (hTokens : tokens text = some (spelled source.sentences)) : readSource text = some source := by
  rw [readSource, hTokens, Option.bind_some, sentences_spelled Source.closed_of_mem_sentences,
    Option.bind_some, source.read_sentences]

end ShaderHandles.C
