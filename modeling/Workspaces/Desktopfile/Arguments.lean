import Workspaces.Desktopfile.SyntaxError

/-!
# Arguments of a statement

Arguments are strings and symbols with commas between them, with or without
parentheses around them.  Lines may be broken after a comma and inside the
parentheses next to them.  Every reader gives back the tokens that follow what
it read; `stop` is the position of the end of the source.
-/

namespace Workspaces.Desktopfile

/-- The text that a token stands for as an argument. -/
def Token.argument? : Token → Option String
  | string value => some value
  | symbol name => some name
  | _ => none

/-- The complaint that the first of the tokens is not what was expected. -/
def unexpectedAt (stop : Position) (expected : Expected) :
    List (Located Token) → SyntaxError
  | [] => ⟨stop, .unexpected expected none⟩
  | token :: _ => ⟨token.position, .unexpected expected (some token.value)⟩

def skipNewlines : List (Located Token) → List (Located Token)
  | [] => []
  | token :: rest => if token.value = .newline then skipNewlines rest else token :: rest

theorem length_skipNewlines (tokens : List (Located Token)) :
    (skipNewlines tokens).length ≤ tokens.length := by
  fun_induction skipNewlines tokens <;> simp_all
  omega

/-- One argument or more, with commas between them. -/
def readArgumentList (stop : Position) (tokens : List (Located Token)) :
    Except SyntaxError (List String × List (Located Token)) :=
  match tokens with
  | [] => .error (unexpectedAt stop .value [])
  | token :: rest =>
    match token.value.argument? with
    | none => .error (unexpectedAt stop .value (token :: rest))
    | some argument =>
      match rest with
      | [] => .ok ([argument], [])
      | next :: rest =>
        if next.value = .comma then
          match readArgumentList stop (skipNewlines rest) with
          | .error error => .error error
          | .ok (arguments, rest) => .ok (argument :: arguments, rest)
        else .ok ([argument], next :: rest)
termination_by tokens.length
decreasing_by
  have := length_skipNewlines rest
  simp only [List.length_cons]
  omega

theorem length_readArgumentList {stop : Position} {tokens rest : List (Located Token)}
    {arguments : List String} (h : readArgumentList stop tokens = .ok (arguments, rest)) :
    rest.length ≤ tokens.length := by
  fun_induction readArgumentList stop tokens generalizing arguments rest with
  | case1 => simp at h
  | case2 => simp at h
  | case3 => simp_all
  | case4 => simp at h
  | case5 token argument hargument next more hcomma values final hread ih =>
    have hfinal := ih hread
    have := length_skipNewlines more
    simp only [Except.ok.injEq, Prod.mk.injEq] at h
    simp only [List.length_cons, ← h.2]
    omega
  | case6 =>
    simp only [Except.ok.injEq, Prod.mk.injEq] at h
    simp [← h.2]

/-- What follows an opening parenthesis, up to the closing one. -/
def readParenthesized (stop : Position) (tokens : List (Located Token)) :
    Except SyntaxError (List String × List (Located Token)) :=
  match skipNewlines tokens with
  | ⟨.closeParen, _⟩ :: rest => .ok ([], rest)
  | tokens =>
    match readArgumentList stop tokens with
    | .error error => .error error
    | .ok (arguments, rest) =>
      match skipNewlines rest with
      | ⟨.closeParen, _⟩ :: rest => .ok (arguments, rest)
      | rest => .error (unexpectedAt stop .closeParen rest)

/-- The arguments of a statement, none if no argument follows. -/
def readArguments (stop : Position) (tokens : List (Located Token)) :
    Except SyntaxError (List String × List (Located Token)) :=
  match tokens with
  | [] => .ok ([], [])
  | ⟨.openParen, _⟩ :: rest => readParenthesized stop rest
  | token :: rest =>
    if token.value.argument?.isSome then readArgumentList stop (token :: rest)
    else .ok ([], token :: rest)

theorem length_readParenthesized {stop : Position} {tokens rest : List (Located Token)}
    {arguments : List String} (h : readParenthesized stop tokens = .ok (arguments, rest)) :
    rest.length ≤ tokens.length := by
  have hskip := length_skipNewlines tokens
  unfold readParenthesized at h
  split at h
  · rename_i hclose
    simp only [Except.ok.injEq, Prod.mk.injEq] at h
    simp only [hclose, List.length_cons, h.2] at hskip
    omega
  · split at h
    · simp at h
    · rename_i between hread
      have hlist := length_readArgumentList hread
      split at h
      · rename_i hclose
        have := length_skipNewlines between
        simp only [Except.ok.injEq, Prod.mk.injEq] at h
        simp only [hclose, List.length_cons, h.2] at this
        omega
      · simp at h

theorem length_readArguments {stop : Position} {tokens rest : List (Located Token)}
    {arguments : List String} (h : readArguments stop tokens = .ok (arguments, rest)) :
    rest.length ≤ tokens.length := by
  unfold readArguments at h
  split at h
  · simp_all
  · have := length_readParenthesized h
    simp only [List.length_cons]
    omega
  · split at h
    · exact length_readArgumentList h
    · simp only [Except.ok.injEq, Prod.mk.injEq] at h
      simp [← h.2]

end Workspaces.Desktopfile
