import Workspaces.Proofs.ErrorPositions

/-!
# Sources that begin elsewhere

A source that stands at another place of a text is read as it is, only its positions are
others.  The reader of tokens counts on from wherever it begins.  The readers after it carry
positions along and never look at them, so positions may be moved before something is read or
after it.
-/

namespace Workspaces

/-! ## What is moved -/

def Located.moved {α : Type} (move : Position → Position) (located : Located α) : Located α :=
  ⟨located.value, move located.position⟩

namespace Desktopfile

def SyntaxError.moved (move : Position → Position) (error : SyntaxError) : SyntaxError :=
  ⟨move error.position, error.cause⟩

def Cursor.moved (move : Position → Position) (cursor : Cursor) : Cursor :=
  ⟨cursor.rest, move cursor.position⟩

def movedTokens (move : Position → Position) (tokens : List (Located Token)) :
    List (Located Token) :=
  tokens.map (Located.moved move)

def TokenStream.moved (move : Position → Position) (stream : TokenStream) : TokenStream :=
  ⟨movedTokens move stream.tokens, move stream.stop⟩

def OpenBlock.moved (move : Position → Position) (block : OpenBlock) : OpenBlock :=
  ⟨block.delimiter, move block.position⟩

mutual

def Statement.moved (move : Position → Position) : Statement → Statement
  | .setVariable position name value => .setVariable (move position) name value
  | .setAlias position name expansion => .setAlias (move position) name expansion
  | .echo position text => .echo (move position) text
  | .command position text => .command (move position) text
  | .onSystems position tags body => .onSystems (move position) tags (movedBody move body)

def movedBody (move : Position → Position) : List Statement → List Statement
  | [] => []
  | statement :: statements => statement.moved move :: movedBody move statements

end

def Head.moved (move : Position → Position) : Head → Head
  | .whole statement => .whole (statement.moved move)
  | .conditional position tags block => .conditional (move position) tags (block.moved move)

def Variant.moved (move : Position → Position) (variant : Variant) : Variant :=
  ⟨move variant.position, variant.name, movedBody move variant.body⟩

/-- A result in which errors and what was found are moved. -/
def movedResult {α β : Type} (move : Position → Position) (f : α → β) :
    Except SyntaxError α → Except SyntaxError β
  | .error error => .error (error.moved move)
  | .ok found => .ok (f found)

/-- What was read of some tokens, and the tokens after it, moved. -/
def movedPart {α : Type} (move : Position → Position) (f : α → α) :
    α × List (Located Token) → α × List (Located Token)
  | (found, rest) => (f found, movedTokens move rest)

section Reading

variable {α β : Type} (move : Position → Position) (stop position : Position)
  (tokens : List (Located Token))

@[simp] theorem movedTokens_nil : movedTokens move [] = [] := rfl

@[simp] theorem movedTokens_cons (token : Located Token) :
    movedTokens move (token :: tokens) =
      ⟨token.value, move token.position⟩ :: movedTokens move tokens := rfl

@[simp] theorem movedResult_error (f : α → β) (error : SyntaxError) :
    movedResult move f (.error error) = .error ⟨move error.position, error.cause⟩ := rfl

@[simp] theorem movedResult_ok (f : α → β) (found : α) :
    movedResult move f (.ok found) = .ok (f found) := rfl

@[simp] theorem movedPart_mk (f : α → α) (found : α) :
    movedPart move f (found, tokens) = (f found, movedTokens move tokens) := rfl

/-! ## Arguments -/

theorem unexpectedAt_moved (expected : Expected) :
    unexpectedAt (move stop) expected (movedTokens move tokens) =
      (unexpectedAt stop expected tokens).moved move := by
  cases tokens <;> rfl

theorem skipNewlines_moved :
    skipNewlines (movedTokens move tokens) = movedTokens move (skipNewlines tokens) := by
  induction tokens with
  | nil => rfl
  | cons token tokens ih =>
      rw [movedTokens_cons, skipNewlines, skipNewlines, ih]
      split
      · rfl
      · rfl

theorem readArgumentList_moved :
    readArgumentList (move stop) (movedTokens move tokens) =
      movedResult move (movedPart move id) (readArgumentList stop tokens) := by
  fun_induction readArgumentList stop tokens with
  | case1 =>
      rw [movedTokens_nil, readArgumentList]
      rfl
  | case2 token rest hnone =>
      rw [movedTokens_cons, readArgumentList]
      simp only [hnone]
      rfl
  | case3 token argument hargument =>
      rw [movedTokens_cons, readArgumentList]
      simp only [hargument]
      rfl
  | case4 token argument hargument next rest hcomma error hread ih =>
      rw [hread] at ih
      rw [movedTokens_cons, movedTokens_cons, readArgumentList]
      simp only [hargument, hcomma, if_true, skipNewlines_moved, ih]
      rfl
  | case5 token argument hargument next rest hcomma arguments final hread ih =>
      rw [hread] at ih
      rw [movedTokens_cons, movedTokens_cons, readArgumentList]
      simp only [hargument, hcomma, if_true, skipNewlines_moved, ih]
      rfl
  | case6 token argument hargument next rest hcomma =>
      rw [movedTokens_cons, movedTokens_cons, readArgumentList]
      simp only [hargument, if_neg hcomma]
      rfl

theorem readParenthesized_moved :
    readParenthesized (move stop) (movedTokens move tokens) =
      movedResult move (movedPart move id) (readParenthesized stop tokens) := by
  rw [readParenthesized, readParenthesized, skipNewlines_moved]
  generalize skipNewlines tokens = inside
  have hlist := readArgumentList_moved move stop inside
  cases inside with
  | nil =>
      simp only [movedTokens_nil, readArgumentList]
      rfl
  | cons token rest =>
      obtain ⟨value, opening⟩ := token
      rw [movedTokens_cons] at hlist ⊢
      cases value with
      | closeParen => rfl
      | _ =>
          simp only [hlist]
          cases readArgumentList stop (⟨_, opening⟩ :: rest) with
          | error error => rfl
          | ok part =>
              obtain ⟨arguments, after⟩ := part
              simp only [movedResult_ok, movedPart_mk, skipNewlines_moved]
              cases skipNewlines after with
              | nil => rfl
              | cons next after =>
                  obtain ⟨value, closing⟩ := next
                  cases value <;> rfl

theorem readArguments_moved :
    readArguments (move stop) (movedTokens move tokens) =
      movedResult move (movedPart move id) (readArguments stop tokens) := by
  cases tokens with
  | nil => rfl
  | cons token rest =>
      obtain ⟨value, opening⟩ := token
      have hlist := readArgumentList_moved move stop (⟨value, opening⟩ :: rest)
      cases value with
      | openParen => exact readParenthesized_moved move stop rest
      | string text => exact hlist
      | symbol name => exact hlist
      | _ => rfl

/-! ## Blocks -/

theorem readOpener_moved :
    readOpener (move stop) (movedTokens move tokens) =
      movedResult move (movedPart move (OpenBlock.moved move)) (readOpener stop tokens) := by
  cases tokens with
  | nil => rfl
  | cons token rest =>
      rw [movedTokens_cons, readOpener, readOpener]
      split
      · rfl
      · split
        · rfl
        · rfl

theorem readUnary_moved (keyword : String) (make : String → Statement) :
    readUnary (move stop) (move position) keyword (fun text => (make text).moved move)
        (movedTokens move tokens) =
      movedResult move (movedPart move (Head.moved move))
        (readUnary stop position keyword make tokens) := by
  rw [readUnary, readUnary, readArguments_moved]
  rcases readArguments stop tokens with error | ⟨_ | ⟨_, _ | ⟨_, _⟩⟩, rest⟩ <;> rfl

theorem readBinary_moved (keyword : String) (make : String → String → Statement) :
    readBinary (move stop) (move position) keyword (fun name value => (make name value).moved move)
        (movedTokens move tokens) =
      movedResult move (movedPart move (Head.moved move))
        (readBinary stop position keyword make tokens) := by
  rw [readBinary, readBinary, readArguments_moved]
  rcases readArguments stop tokens with error | ⟨_ | ⟨_, _ | ⟨_, _ | ⟨_, _⟩⟩⟩, rest⟩ <;> rfl

theorem readConditional_moved :
    readConditional (move stop) (move position) (movedTokens move tokens) =
      movedResult move (movedPart move (Head.moved move))
        (readConditional stop position tokens) := by
  rw [readConditional, readConditional, readArguments_moved]
  rcases readArguments stop tokens with error | ⟨_ | ⟨tag, tags⟩, rest⟩
  · rfl
  · rfl
  · simp only [movedResult_ok, movedPart_mk, id, readOpener_moved]
    cases readOpener stop rest <;> rfl

theorem readHead_moved (keyword : String) :
    readHead (move stop) (move position) keyword (movedTokens move tokens) =
      movedResult move (movedPart move (Head.moved move))
        (readHead stop position keyword tokens) := by
  rw [readHead, readHead]
  split
  · exact readBinary_moved move stop position tokens keyword (.setVariable position)
  split
  · exact readBinary_moved move stop position tokens keyword (.setAlias position)
  split
  · exact readUnary_moved move stop position tokens keyword (.echo position)
  split
  · exact readUnary_moved move stop position tokens keyword (.command position)
  split
  · exact readConditional_moved move stop position tokens
  split
  · rfl
  · rfl

theorem endsStatement_moved (delimiter : Delimiter) :
    endsStatement delimiter (movedTokens move tokens) = endsStatement delimiter tokens := by
  cases tokens <;> rfl

/-! ## Bodies -/

/-- A body that begins with a word, which does not close its block. -/
theorem bodyOf_word {block : OpenBlock} {keyword : String}
    (hcloser : Token.word keyword ≠ block.delimiter.closer) :
    Grammar.bodyOf stop block (⟨.word keyword, position⟩ :: tokens) =
      match readHead stop position keyword tokens with
      | .error error => .error error
      | .ok (.whole statement, next) =>
        if endsStatement block.delimiter next then
          (Grammar.bodyOf stop block next).map (Grammar.consStatement statement)
        else .error (unexpectedAt stop .endOfStatement next)
      | .ok (.conditional opening tags inner, next) =>
        match Grammar.bodyOf stop inner next with
        | .error error => .error error
        | .ok (body, after) =>
          if endsStatement block.delimiter after then
            (Grammar.bodyOf stop block after).map
              (Grammar.consStatement (.onSystems opening tags body))
          else .error (unexpectedAt stop .endOfStatement after) := by
  unfold Grammar.bodyOf
  rw [readBody]
  simp only [Token.isSeparator, Bool.false_eq_true, if_false, hcloser]
  split
  · rename_i hhead
    simp only [hhead]
    rfl
  · rename_i statement next hhead
    simp only [hhead]
    split
    · cases readBody stop block next <;> rfl
    · rfl
  · rename_i opening tags inner next hhead
    simp only [hhead]
    rcases readBody stop inner next with error | ⟨body, after, _⟩
    · rfl
    · by_cases hends : endsStatement block.delimiter after = true
      · simp only [Except.map, if_pos hends]
        cases readBody stop block after <;> rfl
      · simp only [Except.map, if_neg hends]

/-- A body that begins with no word, separator or closer. -/
theorem bodyOf_not_statement {block : OpenBlock} {token : Token}
    (hseparator : ¬ token.isSeparator = true) (hcloser : token ≠ block.delimiter.closer)
    (hword : ∀ keyword, token ≠ .word keyword) :
    Grammar.bodyOf stop block (⟨token, position⟩ :: tokens) =
      .error ⟨position, .notAStatement token⟩ := by
  rw [Grammar.bodyOf, readBody.eq_def]
  simp only [if_neg hseparator, if_neg hcloser]
  cases token with
  | word keyword => exact absurd rfl (hword keyword)
  | _ => rfl

/-- After a statement the body goes on at the next tokens, wherever they are. -/
theorem next_statement_moved {block : OpenBlock} (statement : Statement)
    (h : Grammar.bodyOf (move stop) (block.moved move) (movedTokens move tokens) =
      movedResult move (movedPart move (movedBody move)) (Grammar.bodyOf stop block tokens)) :
    (if endsStatement block.delimiter tokens then
        (Grammar.bodyOf (move stop) (block.moved move) (movedTokens move tokens)).map
          (Grammar.consStatement (statement.moved move))
      else .error ((unexpectedAt stop .endOfStatement tokens).moved move)) =
      movedResult move (movedPart move (movedBody move))
        (if endsStatement block.delimiter tokens then
          (Grammar.bodyOf stop block tokens).map (Grammar.consStatement statement)
        else .error (unexpectedAt stop .endOfStatement tokens)) := by
  rw [h]
  split
  · cases Grammar.bodyOf stop block tokens <;> rfl
  · rfl

theorem bodyOf_moved (block : OpenBlock) (tokens : List (Located Token)) :
    Grammar.bodyOf (move stop) (block.moved move) (movedTokens move tokens) =
      movedResult move (movedPart move (movedBody move)) (Grammar.bodyOf stop block tokens) := by
  cases tokens with
  | nil =>
      rw [movedTokens_nil, Grammar.bodyOf, Grammar.bodyOf, readBody, readBody]
      rfl
  | cons token rest =>
      obtain ⟨token, position⟩ := token
      rw [movedTokens_cons]
      dsimp only
      by_cases hseparator : token.isSeparator = true
      · rw [Grammar.bodyOf_separator hseparator, Grammar.bodyOf_separator hseparator]
        exact bodyOf_moved block rest
      by_cases hcloser : token = block.delimiter.closer
      · rw [Grammar.bodyOf_closer hcloser, Grammar.bodyOf_closer hcloser]
        rfl
      have hmoved : token ≠ (block.moved move).delimiter.closer := hcloser
      by_cases hword : ∃ keyword, token = .word keyword
      · obtain ⟨keyword, rfl⟩ := hword
        rw [bodyOf_word _ _ _ hmoved, bodyOf_word _ _ _ hcloser, readHead_moved]
        cases hhead : readHead stop position keyword rest with
        | error error => rfl
        | ok part =>
            obtain ⟨statement | ⟨opening, tags, inner⟩, next⟩ := part
            · have hnext := length_readHead hhead
              simp only [movedResult_ok, movedPart_mk, Head.moved, endsStatement_moved,
                unexpectedAt_moved]
              exact next_statement_moved move stop next statement (bodyOf_moved block next)
            · have hnext := length_readHead hhead
              simp only [movedResult_ok, movedPart_mk, Head.moved, bodyOf_moved inner next]
              cases hinner : Grammar.bodyOf stop inner next with
              | error error => rfl
              | ok found =>
                  obtain ⟨body, after⟩ := found
                  obtain ⟨part, _, hpart⟩ := except_map_eq_ok hinner
                  cases hpart
                  have hafter := part.shorter
                  simp only [movedResult_ok, movedPart_mk, endsStatement_moved,
                    unexpectedAt_moved]
                  exact next_statement_moved move stop part.rest
                    (.onSystems opening tags part.value) (bodyOf_moved block part.rest)
      · have hnone : ∀ keyword, token ≠ .word keyword := fun keyword h => hword ⟨keyword, h⟩
        rw [bodyOf_not_statement _ _ _ hseparator hmoved hnone,
          bodyOf_not_statement _ _ _ hseparator hcloser hnone]
        rfl
termination_by tokens.length
decreasing_by
  all_goals
    simp only [List.length_cons]
    omega

/-! ## Documents -/

theorem readVariant_moved :
    readVariant (move stop) (move position) (movedTokens move tokens) =
      movedResult move (movedPart move (Variant.moved move))
        (readVariant stop position tokens) := by
  rw [readVariant, readVariant, readArguments_moved]
  rcases readArguments stop tokens with error | ⟨_ | ⟨name, _ | ⟨_, _⟩⟩, rest⟩
  · rfl
  · rfl
  · simp only [movedResult_ok, movedPart_mk, id, readOpener_moved]
    rcases readOpener stop rest with error | ⟨block, inside⟩
    · rfl
    · have hbody := bodyOf_moved move stop block inside
      rw [Grammar.bodyOf, Grammar.bodyOf] at hbody
      simp only [movedResult_ok, movedPart_mk]
      cases hread : readBody stop block inside with
      | error error =>
          rw [hread] at hbody
          rw [except_map_eq_error hbody]
          rfl
      | ok part =>
          rw [hread] at hbody
          obtain ⟨moved, hmoved, hpart⟩ := except_map_eq_ok hbody
          obtain ⟨hvalue, hrest⟩ := Prod.mk.inj hpart
          rw [hmoved]
          simp only [hvalue, hrest]
          rfl
  · rfl

theorem readVariants_declaration :
    readVariants stop (⟨.word "configuration", position⟩ :: tokens) =
      match readVariant stop position tokens with
      | .error error => .error error
      | .ok (variant, next) => (readVariants stop next).map (variant :: ·) := by
  cases hread : readVariant stop position tokens with
  | error error =>
      rw [readVariants.eq_def]
      simp only [Token.isSeparator, Bool.false_eq_true, if_false, if_true]
      split
      · rename_i hfound
        cases hfound.symm.trans hread
        rfl
      · rename_i hfound
        cases hfound.symm.trans hread
  | ok part => exact Grammar.readVariants_variant hread

theorem readVariants_moved (tokens : List (Located Token)) :
    readVariants (move stop) (movedTokens move tokens) =
      movedResult move (List.map (Variant.moved move)) (readVariants stop tokens) := by
  cases tokens with
  | nil =>
      rw [movedTokens_nil, readVariants, readVariants]
      rfl
  | cons token rest =>
      obtain ⟨token, position⟩ := token
      rw [movedTokens_cons]
      dsimp only
      by_cases hseparator : token.isSeparator = true
      · rw [readVariants.eq_def, readVariants.eq_def stop]
        simp only [if_pos hseparator]
        exact readVariants_moved rest
      by_cases hword : token = .word "configuration"
      · subst hword
        rw [readVariants_declaration, readVariants_declaration, readVariant_moved]
        cases hvariant : readVariant stop position rest with
        | error error => rfl
        | ok part =>
            obtain ⟨variant, next⟩ := part
            have hnext := length_readVariant hvariant
            simp only [movedResult_ok, movedPart_mk]
            rw [readVariants_moved next]
            cases readVariants stop next <;> rfl
      · rw [readVariants.eq_def, readVariants.eq_def stop]
        simp only [if_neg hseparator, if_neg hword]
        cases token <;> rfl
termination_by tokens.length
decreasing_by
  all_goals
    simp only [List.length_cons]
    omega

end Reading

/-! ## Tokens -/

theorem readTokens_of_error {position start : Position} {c : Char} {text rest : List Char}
    {error : SyntaxError} (hgap : skipGap false position text = ⟨c :: rest, start⟩)
    (htoken : readToken start c rest = .error error) : readTokens position text = .error error := by
  rw [readTokens]
  split
  · rename_i hend
    cases hend.symm.trans hgap
  · rename_i hstart
    cases hstart.symm.trans hgap
    split
    · rename_i hread
      cases hread.symm.trans htoken
      rfl
    · rename_i hread
      cases hread.symm.trans htoken

section Lexing

variable {move : Position → Position}
  (hmove : ∀ position c, move (position.advance c) = (move position).advance c)

include hmove

theorem skipGap_moved (inComment : Bool) (position : Position) (text : List Char) :
    skipGap inComment (move position) text = (skipGap inComment position text).moved move := by
  induction text generalizing inComment position with
  | nil => rfl
  | cons c text ih =>
      rw [skipGap, skipGap, ← hmove, ih, ih]
      split
      · split <;> rfl
      · split
        · rfl
        · split <;> rfl

theorem readWord_moved (position : Position) (text : List Char) :
    readWord (move position) text =
      ((readWord position text).1, (readWord position text).2.moved move) := by
  induction text generalizing position with
  | nil => rfl
  | cons c text ih =>
      rw [readWord, readWord, ← hmove, ih]
      split <;> rfl

theorem readSingleQuoted_moved (position : Position) (text : List Char) :
    readSingleQuoted (move position) text =
      (readSingleQuoted position text).map fun part => (part.1, part.2.moved move) := by
  fun_induction readSingleQuoted position text with
  | case1 => rfl
  | case2 position rest =>
      rw [readSingleQuoted, ← hmove]
      rfl
  | case3 position rest ih =>
      rw [readSingleQuoted, ← hmove, ← hmove, ih, Option.map_map, Option.map_map]
      rfl
  | case4 position rest ih =>
      rw [readSingleQuoted, ← hmove, ← hmove, ih, Option.map_map, Option.map_map]
      rfl
  | case5 position c rest hquote hescape hbackslash ih =>
      rw [readSingleQuoted, ← hmove, ih, Option.map_map, Option.map_map]
      · rfl
      · exact hquote
      · exact hescape
      · exact hbackslash

theorem readDoubleQuoted_moved (opening position : Position) (text : List Char) :
    readDoubleQuoted (move opening) (move position) text =
      movedResult move (fun part => (part.1, part.2.moved move))
        (readDoubleQuoted opening position text) := by
  fun_induction readDoubleQuoted opening position text with
  | case1 => rfl
  | case2 position rest =>
      rw [readDoubleQuoted, ← hmove]
      rfl
  | case3 => rfl
  | case4 position c rest ih =>
      rw [readDoubleQuoted, ← hmove, ← hmove, ih]
      cases readDoubleQuoted opening ((position.advance '\\').advance c) rest <;> rfl
  | case5 => rfl
  | case6 position c rest hquote hlast hescape hbrace ih =>
      rw [readDoubleQuoted, ← hmove, ih]
      · cases readDoubleQuoted opening (position.advance c) rest <;> rfl
      · exact hquote
      · exact hlast
      · exact hescape
      · exact hbrace

theorem readToken_moved (position : Position) (c : Char) (text : List Char) :
    readToken (move position) c text =
      movedResult move (fun part => (part.1, part.2.moved move)) (readToken position c text) := by
  unfold readToken
  rw [← hmove, readSingleQuoted_moved hmove, readDoubleQuoted_moved hmove, readWord_moved hmove]
  split
  · rfl
  split
  · cases readSingleQuoted (position.advance c) text <;> rfl
  split
  · cases readDoubleQuoted position (position.advance c) text <;> rfl
  split
  · split <;> rfl
  split <;> rfl

theorem readTokens_moved (position : Position) (text : List Char) :
    readTokens (move position) text =
      movedResult move (TokenStream.moved move) (readTokens position text) := by
  have hskip {position start : Position} {text rest : List Char}
      (hgap : skipGap false position text = ⟨rest, start⟩) :
      skipGap false (move position) text = ⟨rest, move start⟩ := by
    rw [skipGap_moved hmove, hgap]
    rfl
  fun_induction readTokens position text with
  | case1 position text stop hgap =>
      exact Lexical.readTokens_end (hskip hgap)
  | case2 position text c rest start hgap hrest error htoken =>
      have hmoved := readToken_moved hmove start c rest
      rw [htoken] at hmoved
      exact readTokens_of_error (hskip hgap) hmoved
  | case3 position text c rest start hgap hrest token cursor htoken hcursor ih =>
      have hmoved := readToken_moved hmove start c rest
      rw [htoken] at hmoved
      rw [Lexical.readTokens_token (hskip hgap) hmoved]
      dsimp only [Cursor.moved]
      rw [ih]
      cases readTokens cursor.position cursor.rest <;> rfl

end Lexing

end Desktopfile

open Desktopfile

/-! ## Evaluation -/

namespace Configuration

mutual

theorem apply_moved (move : Position → Position) (platform : Platform) : (statement : Statement) →
    (configuration : Configuration) →
      configuration.apply platform (statement.moved move) =
        movedResult move id (configuration.apply platform statement)
  | .setVariable _ name _, configuration => by
      simp only [Statement.moved, apply]
      split <;> rfl
  | .setAlias _ name _, configuration => by
      simp only [Statement.moved, apply]
      split <;> rfl
  | .echo _ _, _ => rfl
  | .command _ _, _ => rfl
  | .onSystems _ tags body, configuration => by
      simp only [Statement.moved, apply]
      split
      · exact applyAll_moved move platform body configuration
      · rfl

theorem applyAll_moved (move : Position → Position) (platform : Platform) :
    (body : List Statement) → (configuration : Configuration) →
      configuration.applyAll platform (movedBody move body) =
        movedResult move id (configuration.applyAll platform body)
  | [], _ => rfl
  | statement :: body, configuration => by
      rw [movedBody, applyAll_cons, applyAll_cons, apply_moved move platform statement]
      cases configuration.apply platform statement with
      | error error => rfl
      | ok next => exact applyAll_moved move platform body next

end

end Configuration

theorem Environment.declareAll_moved (move : Position → Position) (platform : Platform)
    (environment : Environment) (variants : List Variant) :
    declareAll platform environment (variants.map (Variant.moved move)) =
      movedResult move id (declareAll platform environment variants) := by
  induction variants generalizing environment with
  | nil => rfl
  | cons variant variants ih =>
      have hbody := Configuration.applyAll_moved move platform variant.body .empty
      rw [List.map_cons, declareAll_cons, declareAll_cons, Configuration.ofBody,
        Configuration.ofBody, Variant.moved, hbody]
      cases Configuration.empty.applyAll platform variant.body with
      | error error => rfl
      | ok configuration => exact ih (environment.insert variant.name configuration)

end Workspaces
