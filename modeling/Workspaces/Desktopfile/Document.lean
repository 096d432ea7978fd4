import Workspaces.Desktopfile.Arguments
import Workspaces.Desktopfile.Lexeme
import Workspaces.Desktopfile.Statement

/-!
# From tokens to a document

A block is closed the way it was opened, by `end` after `do` and by a brace
after a brace.  Statements are set apart by line ends and semicolons; the last
one may stand next to the closer of its block.  Each reader says how much it
has read: the tokens that it leaves are fewer than those it was given.
-/

namespace Workspaces.Desktopfile

/-- A block that is open. -/
structure OpenBlock where
  delimiter : Delimiter
  /-- The position of its opener. -/
  position : Position
deriving DecidableEq, Repr

def Token.isSeparator : Token → Bool
  | newline => true
  | semicolon => true
  | _ => false

/-- What opens a block of the given kind. -/
def Delimiter.opener : Delimiter → Token
  | doEnd => .word "do"
  | braces => .openBrace

/-- The opener of a block. -/
def readOpener (stop : Position) (tokens : List (Located Token)) :
    Except SyntaxError (OpenBlock × List (Located Token)) :=
  match tokens with
  | [] => .error (unexpectedAt stop .blockOpener [])
  | token :: rest =>
    if token.value = Delimiter.doEnd.opener then .ok (⟨.doEnd, token.position⟩, rest)
    else if token.value = Delimiter.braces.opener then .ok (⟨.braces, token.position⟩, rest)
    else .error (unexpectedAt stop .blockOpener (token :: rest))

/-- A statement as far as it can be read without the body of a block. -/
inductive Head where
  | whole (statement : Statement)
  | conditional (position : Position) (tags : List String) (block : OpenBlock)

/-- The complaint about the number of arguments of a statement. -/
def wrongCount (position : Position) (keyword : String) (expected : Nat)
    (arguments : List String) : SyntaxError :=
  ⟨position, .argumentCount keyword expected arguments.length⟩

/-- A statement of one argument. -/
def readUnary (stop position : Position) (keyword : String) (make : String → Statement)
    (tokens : List (Located Token)) : Except SyntaxError (Head × List (Located Token)) :=
  match readArguments stop tokens with
  | .error error => .error error
  | .ok ([text], rest) => .ok (.whole (make text), rest)
  | .ok (arguments, _) => .error (wrongCount position keyword 1 arguments)

/-- A statement of two arguments. -/
def readBinary (stop position : Position) (keyword : String)
    (make : String → String → Statement) (tokens : List (Located Token)) :
    Except SyntaxError (Head × List (Located Token)) :=
  match readArguments stop tokens with
  | .error error => .error error
  | .ok ([name, value], rest) => .ok (.whole (make name value), rest)
  | .ok (arguments, _) => .error (wrongCount position keyword 2 arguments)

/-- The tags of an `os` block and its opener. -/
def readConditional (stop position : Position) (tokens : List (Located Token)) :
    Except SyntaxError (Head × List (Located Token)) :=
  match readArguments stop tokens with
  | .error error => .error error
  | .ok ([], _) => .error ⟨position, .missingTag⟩
  | .ok (tags, rest) =>
    match readOpener stop rest with
    | .error error => .error error
    | .ok (block, rest) => .ok (.conditional position tags block, rest)

/-- A statement that begins with a word at `position`; the tokens follow the word. -/
def readHead (stop position : Position) (keyword : String) (tokens : List (Located Token)) :
    Except SyntaxError (Head × List (Located Token)) :=
  if keyword = "env" then readBinary stop position keyword (.setVariable position) tokens
  else if keyword = "alias" ∨ keyword = "alias_cmd" then
    readBinary stop position keyword (.setAlias position) tokens
  else if keyword = "echo" then readUnary stop position keyword (.echo position) tokens
  else if keyword = "cmd" then readUnary stop position keyword (.command position) tokens
  else if keyword = "os" then readConditional stop position tokens
  else if keyword = "configuration" then .error ⟨position, .nestedConfiguration⟩
  else .error ⟨position, .unknownStatement keyword⟩

/-- Whether a statement in a block may end before the tokens. -/
def endsStatement (delimiter : Delimiter) : List (Located Token) → Bool
  | [] => true
  | token :: _ => token.value.isSeparator || token.value = delimiter.closer

theorem length_readOpener {stop : Position} {tokens rest : List (Located Token)}
    {block : OpenBlock} (h : readOpener stop tokens = .ok (block, rest)) :
    rest.length < tokens.length := by
  unfold readOpener at h
  split at h
  · simp at h
  · split at h
    · simp_all
    · split at h
      · simp_all
      · simp at h

theorem length_readUnary {stop position : Position} {keyword : String}
    {make : String → Statement} {tokens rest : List (Located Token)} {head : Head}
    (h : readUnary stop position keyword make tokens = .ok (head, rest)) :
    rest.length ≤ tokens.length := by
  unfold readUnary at h
  split at h
  · simp at h
  · rename_i hread
    simp only [Except.ok.injEq, Prod.mk.injEq] at h
    exact h.2 ▸ length_readArguments hread
  · simp at h

theorem length_readBinary {stop position : Position} {keyword : String}
    {make : String → String → Statement} {tokens rest : List (Located Token)} {head : Head}
    (h : readBinary stop position keyword make tokens = .ok (head, rest)) :
    rest.length ≤ tokens.length := by
  unfold readBinary at h
  split at h
  · simp at h
  · rename_i hread
    simp only [Except.ok.injEq, Prod.mk.injEq] at h
    exact h.2 ▸ length_readArguments hread
  · simp at h

theorem length_readConditional {stop position : Position}
    {tokens rest : List (Located Token)} {head : Head}
    (h : readConditional stop position tokens = .ok (head, rest)) :
    rest.length ≤ tokens.length := by
  unfold readConditional at h
  split at h
  · simp at h
  · simp at h
  · rename_i hread
    split at h
    · simp at h
    · rename_i hopen
      simp only [Except.ok.injEq, Prod.mk.injEq] at h
      have hread := length_readArguments hread
      have hopen := length_readOpener hopen
      simp only [h.2] at hopen
      omega

theorem length_readHead {stop position : Position} {keyword : String}
    {tokens rest : List (Located Token)} {head : Head}
    (h : readHead stop position keyword tokens = .ok (head, rest)) :
    rest.length ≤ tokens.length := by
  unfold readHead at h
  split at h
  · exact length_readBinary h
  split at h
  · exact length_readBinary h
  split at h
  · exact length_readUnary h
  split at h
  · exact length_readUnary h
  split at h
  · exact length_readConditional h
  split at h <;> simp at h

/-- What was read of some tokens, and the tokens after it. -/
structure ReadPart (α : Type) (tokens : List (Located Token)) where
  value : α
  rest : List (Located Token)
  shorter : rest.length < tokens.length

/-- The statements of a block up to its closer. -/
def readBody (stop : Position) (block : OpenBlock) (tokens : List (Located Token)) :
    Except SyntaxError (ReadPart (List Statement) tokens) :=
  match tokens with
  | [] => .error ⟨block.position, .unclosedBlock block.delimiter⟩
  | ⟨token, position⟩ :: rest =>
    if token.isSeparator then
      match readBody stop block rest with
      | .error error => .error error
      | .ok ⟨body, rest, h⟩ => .ok ⟨body, rest, Nat.lt_succ_of_lt h⟩
    else if token = block.delimiter.closer then .ok ⟨[], rest, Nat.lt_succ_self _⟩
    else
      match token with
      | .word keyword =>
        match hhead : readHead stop position keyword rest with
        | .error error => .error error
        | .ok (.whole statement, next) =>
          have hnext := length_readHead hhead
          if endsStatement block.delimiter next then
            match readBody stop block next with
            | .error error => .error error
            | .ok ⟨body, rest, h⟩ =>
              .ok ⟨statement :: body, rest, Nat.lt_succ_of_lt (Nat.lt_of_lt_of_le h hnext)⟩
          else .error (unexpectedAt stop .endOfStatement next)
        | .ok (.conditional position tags inner, next) =>
          have hnext := length_readHead hhead
          match readBody stop inner next with
          | .error error => .error error
          | .ok ⟨innerBody, next, hinner⟩ =>
            if endsStatement block.delimiter next then
              match readBody stop block next with
              | .error error => .error error
              | .ok ⟨body, rest, h⟩ =>
                .ok ⟨.onSystems position tags innerBody :: body, rest,
                  Nat.lt_succ_of_lt (Nat.lt_of_lt_of_le (Nat.lt_trans h hinner) hnext)⟩
            else .error (unexpectedAt stop .endOfStatement next)
      | token => .error ⟨position, .notAStatement token⟩
termination_by tokens.length

/-- A variant after its first word, which stands at `position`. -/
def readVariant (stop position : Position) (tokens : List (Located Token)) :
    Except SyntaxError (Variant × List (Located Token)) :=
  match readArguments stop tokens with
  | .error error => .error error
  | .ok ([name], rest) =>
    match readOpener stop rest with
    | .error error => .error error
    | .ok (block, rest) =>
      match readBody stop block rest with
      | .error error => .error error
      | .ok body => .ok (⟨position, name, body.value⟩, body.rest)
  | .ok (arguments, _) => .error (wrongCount position "configuration" 1 arguments)

theorem length_readVariant {stop position : Position} {tokens rest : List (Located Token)}
    {variant : Variant} (h : readVariant stop position tokens = .ok (variant, rest)) :
    rest.length ≤ tokens.length := by
  unfold readVariant at h
  split at h
  · simp at h
  · rename_i hread
    split at h
    · simp at h
    · rename_i hopen
      split at h
      · simp at h
      · rename_i body _
        simp only [Except.ok.injEq, Prod.mk.injEq] at h
        have hread := length_readArguments hread
        have hopen := length_readOpener hopen
        have hbody := body.shorter
        simp only [h.2] at hbody
        omega
  · simp at h

/-- The variants of a document. -/
def readVariants (stop : Position) (tokens : List (Located Token)) :
    Except SyntaxError (List Variant) :=
  match tokens with
  | [] => .ok []
  | ⟨token, position⟩ :: rest =>
    if token.isSeparator then readVariants stop rest
    else if token = .word "configuration" then
      match hvariant : readVariant stop position rest with
      | .error error => .error error
      | .ok (variant, next) =>
        have : next.length < rest.length + 1 :=
          Nat.lt_succ_of_le (length_readVariant hvariant)
        match readVariants stop next with
        | .error error => .error error
        | .ok variants => .ok (variant :: variants)
    else
      match token with
      | .word word => .error ⟨position, .outsideConfiguration word⟩
      | token => .error (unexpectedAt stop .configuration [⟨token, position⟩])
termination_by tokens.length

namespace Document

def ofTokens (stream : TokenStream) : Except SyntaxError Document :=
  (readVariants stream.stop stream.tokens).map fun variants => ⟨variants⟩

/-- The document that a source spells. -/
def ofSource (source : String) : Except SyntaxError Document :=
  match tokenize source with
  | .error error => .error error
  | .ok stream => ofTokens stream

/-- The document of a source that errors call `origin`. -/
def parse (origin source : String) : Except SourceError Document :=
  match ofSource source with
  | .error error => .error (error.inSource origin)
  | .ok document => .ok document

end Document

end Workspaces.Desktopfile
