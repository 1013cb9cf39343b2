import ShaderHandles.Proofs.C.Token

/-!
# Syntax of the generated C

The part of C that the two artifacts are written in, as trees. A unit is a list of sentences, each of
which is some tokens and the token that stops it: a semicolon, a brace, or the end of a directive's
line.

* `Statement`, `Member`: what stands in the body of a function and of a struct; both are nested.
* `Header`, `Source`: the two units.
* `Header.sentences`, `Source.sentences`: a unit as the sentences it is written with.
* `spelled`: sentences as tokens.
-/

namespace ShaderHandles.C

namespace Token

@[match_pattern]
abbrev semicolon : Token := .mark ';'

@[match_pattern]
abbrev opening : Token := .mark '\x7b'

@[match_pattern]
abbrev closing : Token := .mark '\x7d'

end Token

/-! ## Trees -/

/-- A variable, or a member of a struct below it. -/
structure Place where
  root : String
  members : List String
  deriving DecidableEq

/-- An argument of a call. A constant is the place of its name. -/
inductive Argument where
  | place (place : Place)
  | literal (text : String)
  | number (text : String)
  | addressOf (name : String)
  | sizeOf (name : String)
  deriving DecidableEq

structure Call where
  function : String
  arguments : List Argument
  deriving DecidableEq

/-- A statement of a function. A check guards its body by the answer of a call. -/
inductive Statement where
  | assign (target : Place) (call : Call)
  | call (call : Call)
  | check (condition : Call) (body : List Statement)

/-- A function without parameters or a result. -/
structure Function where
  name : String
  body : List Statement

/-- A member of a struct: of a named type, or an inline struct of its own. -/
inductive Member where
  | typed (type name : String)
  | struct (members : List Member) (name : String)

/-- The definition of a struct type. -/
structure Typedef where
  tag : String
  members : List Member
  name : String

/-- A variable with the type it has. -/
structure Variable where
  type : String
  name : String
  deriving DecidableEq

inductive Include where
  | system (name : String)
  | quoted (name : String)
  deriving DecidableEq

/-- A header: inside its include guard two struct types, the declaration of a variable, and the
prototypes of functions. -/
structure Header where
  guard : String
  includes : List Include
  shared : Typedef
  container : Typedef
  object : Variable
  prototypes : List String

/-- A source file: a preamble that ends with the definition of a variable, and two functions. -/
structure Source where
  includes : List Include
  object : Variable
  load : Function
  unload : Function

/-! ## Sentences -/

/-- Some tokens and the token that stops them. -/
structure Sentence where
  words : List Token
  stop : Token
  deriving DecidableEq

def Sentence.tokens (sentence : Sentence) : List Token := sentence.words ++ [sentence.stop]

/-- Sentences as tokens. -/
def spelled (sentences : List Sentence) : List Token := sentences.flatMap Sentence.tokens

/-- Tokens between parentheses. -/
def wrap (inner : List Token) : List Token := .mark '(' :: (inner ++ [.mark ')'])

def Place.tokens (place : Place) : List Token :=
  .name place.root :: place.members.flatMap fun member => [.mark '.', .name member]

def Argument.tokens : Argument → List Token
  | .place path => path.tokens
  | .literal text => [.literal text]
  | .number text => [.number text]
  | .addressOf name => [.mark '&', .name name]
  | .sizeOf name => .keyword "sizeof" :: wrap [.name name]

/-- Arguments with commas between them. -/
def argumentTokens (arguments : List Argument) : List Token :=
  [.mark ','].intercalate (arguments.map Argument.tokens)

def Call.tokens (call : Call) : List Token :=
  .name call.function :: wrap (argumentTokens call.arguments)

/-- The opening of a check. -/
def Call.checkSentence (condition : Call) : Sentence :=
  ⟨.keyword "if" :: wrap condition.tokens, .opening⟩

mutual

def Statement.sentences : Statement → List Sentence
  | .assign target call => [⟨target.tokens ++ .mark '=' :: call.tokens, .semicolon⟩]
  | .call call => [⟨call.tokens, .semicolon⟩]
  | .check condition body => condition.checkSentence :: (bodySentences body ++ [⟨[], .closing⟩])

def bodySentences : List Statement → List Sentence
  | [] => []
  | statement :: rest => statement.sentences ++ bodySentences rest

end

mutual

def Member.sentences : Member → List Sentence
  | .typed type name => [⟨[.name type, .name name], .semicolon⟩]
  | .struct members name =>
    ⟨[.keyword "struct"], .opening⟩ ::
      (memberSentences members ++ [⟨[], .closing⟩, ⟨[.name name], .semicolon⟩])

def memberSentences : List Member → List Sentence
  | [] => []
  | member :: rest => member.sentences ++ memberSentences rest

end

/-- What stands before the stop of a function's prototype or definition. -/
def signature (name : String) : List Token := [.keyword "void", .name name] ++ wrap [.keyword "void"]

def Function.sentences (function : Function) : List Sentence :=
  ⟨signature function.name, .opening⟩ :: (bodySentences function.body ++ [⟨[], .closing⟩])

def Typedef.sentences (type : Typedef) : List Sentence :=
  ⟨[.keyword "typedef", .keyword "struct", .name type.tag], .opening⟩ ::
    (memberSentences type.members ++ [⟨[], .closing⟩, ⟨[.name type.name], .semicolon⟩])

/-- A directive is a sentence that stops at the end of its line. -/
def directive (name : String) (words : List Token) : Sentence :=
  ⟨.mark '#' :: .name name :: words, .lineEnd⟩

def Include.sentence : Include → Sentence
  | .system name => directive "include" [.header name]
  | .quoted name => directive "include" [.literal name]

def Header.sentences (header : Header) : List Sentence :=
  directive "ifndef" [.name header.guard] :: directive "define" [.name header.guard] ::
    (header.includes.map Include.sentence ++ header.shared.sentences ++ header.container.sentences ++
      [⟨[.keyword "extern", .name header.object.type, .name header.object.name], .semicolon⟩] ++
      header.prototypes.map (fun name => ⟨signature name, .semicolon⟩) ++ [directive "endif" []])

def Source.sentences (source : Source) : List Sentence :=
  source.includes.map Include.sentence ++
    [⟨[.name source.object.type, .name source.object.name], .semicolon⟩] ++
    source.load.sentences ++ source.unload.sentences

/-! ## Sentences and tokens of lists -/

theorem spelled_append (first second : List Sentence) :
    spelled (first ++ second) = spelled first ++ spelled second :=
  List.flatMap_append

@[simp] theorem spelled_cons (sentence : Sentence) (rest : List Sentence) :
    spelled (sentence :: rest) = sentence.tokens ++ spelled rest :=
  List.flatMap_cons

@[simp] theorem spelled_nil : spelled [] = [] := rfl

theorem bodySentences_append (first second : List Statement) :
    bodySentences (first ++ second) = bodySentences first ++ bodySentences second := by
  induction first with
  | nil => rfl
  | cons statement rest ih => simp [bodySentences, ih]

theorem spelled_bodySentences (body : List Statement) :
    spelled (bodySentences body) = body.flatMap fun statement => spelled statement.sentences := by
  induction body with
  | nil => rfl
  | cons statement rest ih => rw [bodySentences, spelled_append, ih, List.flatMap_cons]

theorem spelled_memberSentences (members : List Member) :
    spelled (memberSentences members) = members.flatMap fun member => spelled member.sentences := by
  induction members with
  | nil => rfl
  | cons member rest ih => rw [memberSentences, spelled_append, ih, List.flatMap_cons]

end ShaderHandles.C
