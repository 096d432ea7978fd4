import Workspaces.Proofs.LexemeRecognition

/-!
# Where errors point

Every error of an evaluation stands at a position of the source, and what stands there
is what the error is about.  The reader of tokens complains about characters.  The
reader of documents complains about tokens of the source or about its end, and the
evaluation about the first word of a statement; a token stands where its lexeme does.
-/

namespace Workspaces

namespace Desktopfile

open Lexical

/-! ## What an error is about -/

/-- The token that an error is about: the one that it found, the first word of the
statement or the opener of the block. -/
inductive Blames : Cause → Token → Prop
  | outside (word : String) : Blames (.outsideConfiguration word) (.word word)
  | found (expected : Expected) (token : Token) : Blames (.unexpected expected (some token)) token
  | count (keyword : String) (expected given : Nat) :
      Blames (.argumentCount keyword expected given) (.word keyword)
  | unclosed (delimiter : Delimiter) : Blames (.unclosedBlock delimiter) delimiter.opener
  | notAStatement (token : Token) : Blames (.notAStatement token) token
  | missingTag : Blames .missingTag (.word "os")
  | nested : Blames .nestedConfiguration (.word "configuration")
  | unknown (word : String) : Blames (.unknownStatement word) (.word word)
  | variableName (name : String) : Blames (.invalidVariableName name) (.word "env")
  | aliasName (name keyword : String) : keyword = "alias_cmd" ∨ keyword = "alias" →
      Blames (.invalidAliasName name) (.word keyword)

/-- No lexeme is in front of a text. -/
def NoLexeme (text : List Char) : Prop :=
  ∀ lexeme token rest, text = lexeme ++ rest → ¬ Lexeme lexeme token

/-- What an error is about stands in front of a text. -/
inductive Culprit : Cause → List Char → Prop
  | character {c : Char} {rest : List Char} :
      NoLexeme (c :: rest) → Culprit (.unexpectedCharacter c) (c :: rest)
  | colon {rest : List Char} : NoLexeme (':' :: rest) → Culprit .missingSymbolName (':' :: rest)
  | quote {c : Char} {rest : List Char} :
      c = '\'' ∨ c = '"' → NoLexeme (c :: rest) → Culprit .unterminatedString (c :: rest)
  | interpolation {rest : List Char} : Culprit .interpolation ('#' :: '\x7b' :: rest)
  | token {cause : Cause} {token : Token} {lexeme rest : List Char} :
      Blames cause token → Lexeme lexeme token → IsWhole token rest →
        Culprit cause (lexeme ++ rest)
  | ending {expected : Expected} : Culprit (.unexpected expected none) []

/-! ## Errors of the reader of tokens -/

variable {position opening : Position} {text before : List Char} {c : Char}
  {error : SyntaxError}

theorem except_map_eq_error {α β ε : Type} {f : α → β} {result : Except ε α} {e : ε}
    (h : result.map f = .error e) : result = .error e := by
  cases result with
  | error other =>
      cases h
      rfl
  | ok a =>
      cases h

/-- In front of a lexeme the reader does not fail, even if more of a word follows. -/
theorem Lexical.Lexeme.exists_readToken {token : Token} (h : Lexeme (c :: text) token)
    (rest : List Char) (position : Position) :
    ∃ result, readToken position c (text ++ rest) = .ok result := by
  have hread : IsWhole token rest → ∃ result, readToken position c (text ++ rest) = .ok result :=
    fun hwhole => ⟨_, h.readToken_append hwhole position⟩
  generalize hlexeme : c :: text = lexeme at h
  cases h with
  | mark hmark =>
      exact hread (isWhole_of_mem_marks hmark rest)
  | word hname =>
      obtain ⟨first, others, hword, hfirst, _⟩ := exists_toList_of_variableName hname
      cases hlexeme.trans hword
      exact ⟨_, readToken_word hfirst⟩
  | symbol hname =>
      obtain ⟨first, others, hword, hfirst, _⟩ := exists_toList_of_variableName hname
      cases hlexeme.trans (congrArg (':' :: ·) hword)
      exact ⟨_, readToken_symbol hfirst⟩
  | single htext =>
      exact hread trivial
  | double htext =>
      exact hread trivial

theorem noLexeme_of_readToken (h : readToken position c text = .error error) :
    NoLexeme (c :: text) := by
  intro lexeme token rest htext hlexeme
  obtain ⟨first, tail, rfl, _⟩ := hlexeme.head
  rw [List.cons_append, List.cons.injEq] at htext
  obtain ⟨rfl, rfl⟩ := htext
  obtain ⟨result, hread⟩ := hlexeme.exists_readToken rest position
  rw [hread] at h
  cases h

theorem readDoubleQuoted_eq_error (h : readDoubleQuoted opening position text = .error error) :
    error = ⟨opening, .unterminatedString⟩ ∨
      ∃ gone rest, text = gone ++ '#' :: '\x7b' :: rest ∧
        error = ⟨position.after gone, .interpolation⟩ := by
  fun_induction readDoubleQuoted opening position text with
  | case1 =>
      cases h
      exact .inl rfl
  | case2 =>
      cases h
  | case3 =>
      cases h
      exact .inl rfl
  | case4 position c rest ih =>
      rcases ih (except_map_eq_error h) with herror | ⟨gone, after, hrest, herror⟩
      · exact .inl herror
      · refine .inr ⟨'\\' :: c :: gone, after, ?_, herror⟩
        rw [hrest]
        rfl
  | case5 position rest =>
      cases h
      exact .inr ⟨[], rest, rfl, rfl⟩
  | case6 position c rest _ _ _ _ ih =>
      rcases ih (except_map_eq_error h) with herror | ⟨gone, after, hrest, herror⟩
      · exact .inl herror
      · refine .inr ⟨c :: gone, after, ?_, herror⟩
        rw [hrest]
        rfl

theorem culprit_of_readToken (h : readToken (.reached before) c text = .error error) :
    ∃ gone rest, c :: text = gone ++ rest ∧ error.position = .reached (before ++ gone) ∧
      Culprit error.cause rest := by
  have hnone := noLexeme_of_readToken h
  have hhere : error.position = .reached before → Culprit error.cause (c :: text) →
      ∃ gone rest, c :: text = gone ++ rest ∧ error.position = .reached (before ++ gone) ∧
        Culprit error.cause rest :=
    fun hposition hculprit => ⟨[], c :: text, rfl, by rwa [List.append_nil], hculprit⟩
  unfold readToken at h
  split at h
  · cases h
  split at h
  · rename_i hc
    split at h
    · cases h
    · cases h
      exact hhere rfl (.quote (.inl hc) hnone)
  split at h
  · rename_i hc
    rcases readDoubleQuoted_eq_error (except_map_eq_error h) with rfl | ⟨gone, rest, rfl, rfl⟩
    · exact hhere rfl (.quote (.inr hc) hnone)
    · refine ⟨c :: gone, _, rfl, ?_, .interpolation⟩
      rw [Position.advance_reached, Position.after_reached, List.append_assoc]
      rfl
  split at h
  · rename_i hc
    split at h
    · cases h
    · cases h
      subst hc
      exact hhere rfl (.colon hnone)
  split at h
  · cases h
  · cases h
    exact hhere rfl (.character hnone)

theorem culprit_of_readTokens (h : readTokens (.reached before) text = .error error) :
    ∃ gone rest, text = gone ++ rest ∧ error.position = .reached (before ++ gone) ∧
      Culprit error.cause rest := by
  generalize hposition : Position.reached before = position at h
  fun_induction readTokens position text generalizing before with
  | case1 =>
      cases h
  | case2 position text c rest start hgap hrest other htoken =>
      cases h
      obtain ⟨gap, htext, _, hstart⟩ := exists_gap_skipGap position text
      rw [hgap] at htext hstart
      dsimp only at htext hstart
      rw [hstart, ← hposition, Position.after_reached] at htoken
      obtain ⟨gone, after, hafter, herror, hculprit⟩ := culprit_of_readToken htoken
      refine ⟨gap ++ gone, after, ?_, ?_, hculprit⟩
      · rw [htext, hafter, List.append_assoc]
      · rw [herror, List.append_assoc]
  | case3 position text c rest start hgap hrest token cursor htoken hcursor ih =>
      obtain ⟨gap, htext, _, hstart⟩ := exists_gap_skipGap position text
      obtain ⟨read, htail, _, _, hnext⟩ := lexeme_of_readToken htoken
      rw [hgap] at htext hstart
      dsimp only at htext hstart
      rw [hstart, ← hposition, Position.after_reached, Position.after_reached] at hnext
      obtain ⟨gone, after, hafter, herror, hculprit⟩ :=
        ih hnext.symm (except_map_eq_error h)
      refine ⟨gap ++ c :: read ++ gone, after, ?_, ?_, hculprit⟩
      · rw [htext, htail, hafter]
        simp
      · rw [herror]
        simp

/-! ## Errors of the reader of documents -/

/-- An error is about one of the tokens, at the position of the token, or about the end
of the source. -/
def Points (stop : Position) (tokens : List (Located Token)) (error : SyntaxError) : Prop :=
  (∃ token ∈ tokens, Blames error.cause token.value ∧ error.position = token.position) ∨
    ∃ expected, error = ⟨stop, .unexpected expected none⟩

variable {stop : Position} {tokens rest more : List (Located Token)}

theorem Points.mono (h : Points stop tokens error) (hsub : tokens ⊆ more) :
    Points stop more error := by
  rcases h with ⟨token, htoken, hblames⟩ | hend
  · exact .inl ⟨token, hsub htoken, hblames⟩
  · exact .inr hend

theorem Points.append (h : Points stop tokens error) (before : List (Located Token)) :
    Points stop (before ++ tokens) error :=
  h.mono (List.subset_append_right before tokens)

theorem Points.head {token : Located Token} {cause : Cause} (h : Blames cause token.value) :
    Points stop (token :: tokens) ⟨token.position, cause⟩ :=
  .inl ⟨token, List.mem_cons_self, h, rfl⟩

theorem Points.insert {first : Located Token} (h : Points stop (first :: tokens) error)
    (between : List (Located Token)) : Points stop (first :: (between ++ tokens)) error := by
  apply h.mono
  intro token htoken
  rcases List.mem_cons.mp htoken with rfl | htoken
  · exact List.mem_cons_self
  · exact List.mem_cons_of_mem first (List.mem_append_right between htoken)

theorem points_unexpectedAt (stop : Position) (expected : Expected)
    (tokens : List (Located Token)) : Points stop tokens (unexpectedAt stop expected tokens) := by
  cases tokens with
  | nil =>
      exact .inr ⟨expected, rfl⟩
  | cons token tokens =>
      exact .head (.found expected token.value)

theorem points_of_skipNewlines (h : Points stop (skipNewlines tokens) error) :
    Points stop tokens error := by
  obtain ⟨gap, hgap, _⟩ := Grammar.exists_newlines_skipNewlines tokens
  rw [hgap]
  exact h.append gap

theorem points_of_readArgumentList (h : readArgumentList stop tokens = .error error) :
    Points stop tokens error := by
  fun_induction readArgumentList stop tokens with
  | case1 =>
      cases h
      exact points_unexpectedAt stop .value []
  | case2 token rest =>
      cases h
      exact points_unexpectedAt stop .value (token :: rest)
  | case3 =>
      cases h
  | case4 token argument hargument next more hcomma other hread ih =>
      cases h
      exact (points_of_skipNewlines (ih hread)).append [token, next]
  | case5 =>
      cases h
  | case6 =>
      cases h

theorem points_of_readParenthesized (h : readParenthesized stop tokens = .error error) :
    Points stop tokens error := by
  apply points_of_skipNewlines
  unfold readParenthesized at h
  split at h
  · cases h
  · split at h
    · rename_i hread
      cases h
      exact points_of_readArgumentList hread
    · rename_i between hread
      obtain ⟨read, hskip, _⟩ := Grammar.values_of_readArgumentList hread
      split at h
      · cases h
      · cases h
        rw [hskip]
        exact (points_of_skipNewlines (points_unexpectedAt stop .closeParen _)).append read

theorem points_of_readArguments (h : readArguments stop tokens = .error error) :
    Points stop tokens error := by
  unfold readArguments at h
  split at h
  · cases h
  · rename_i position rest
    exact (points_of_readParenthesized h).append [⟨.openParen, position⟩]
  · split at h
    · exact points_of_readArgumentList h
    · cases h

theorem points_of_readOpener (h : readOpener stop tokens = .error error) :
    Points stop tokens error := by
  unfold readOpener at h
  split at h
  · cases h
    exact points_unexpectedAt stop .blockOpener []
  · split at h
    · cases h
    · split at h
      · cases h
      · cases h
        exact points_unexpectedAt stop .blockOpener _

/-! ### Statements -/

variable {keyword : String}

theorem points_of_readUnary {make : String → Statement}
    (h : readUnary stop position keyword make tokens = .error error) :
    Points stop (⟨.word keyword, position⟩ :: tokens) error := by
  unfold readUnary at h
  split at h
  · rename_i hread
    cases h
    exact (points_of_readArguments hread).append [_]
  · cases h
  · cases h
    exact .head (.count keyword 1 _)

theorem points_of_readBinary {make : String → String → Statement}
    (h : readBinary stop position keyword make tokens = .error error) :
    Points stop (⟨.word keyword, position⟩ :: tokens) error := by
  unfold readBinary at h
  split at h
  · rename_i hread
    cases h
    exact (points_of_readArguments hread).append [_]
  · cases h
  · cases h
    exact .head (.count keyword 2 _)

theorem points_of_readConditional (h : readConditional stop position tokens = .error error) :
    Points stop (⟨.word "os", position⟩ :: tokens) error := by
  unfold readConditional at h
  split at h
  · rename_i hread
    cases h
    exact (points_of_readArguments hread).append [_]
  · cases h
    exact .head .missingTag
  · rename_i tags more htags hread
    split at h
    · rename_i hopen
      cases h
      obtain ⟨read, htokens, _⟩ := Grammar.arguments_of_readArguments hread htags
      rw [htokens]
      exact ((points_of_readOpener hopen).append read).append [_]
    · cases h

theorem points_of_readHead (h : readHead stop position keyword tokens = .error error) :
    Points stop (⟨.word keyword, position⟩ :: tokens) error := by
  unfold readHead at h
  split at h
  · exact points_of_readBinary h
  split at h
  · exact points_of_readBinary h
  split at h
  · exact points_of_readUnary h
  split at h
  · exact points_of_readUnary h
  split at h
  · rename_i hkeyword
    subst hkeyword
    exact points_of_readConditional h
  split at h
  · rename_i hkeyword
    cases h
    subst hkeyword
    exact .head .nested
  · cases h
    exact .head (.unknown keyword)

/-! ### Blocks -/

variable {block inner : OpenBlock}

def OpenBlock.opener (block : OpenBlock) : Located Token :=
  ⟨block.delimiter.opener, block.position⟩

theorem tokens_of_readOpener (h : readOpener stop tokens = .ok (block, rest)) :
    tokens = block.opener :: rest := by
  unfold readOpener at h
  split at h
  · cases h
  · rename_i token more
    split at h
    · rename_i hopener
      cases h
      rw [OpenBlock.opener, ← hopener]
    · split at h
      · rename_i hopener
        cases h
        rw [OpenBlock.opener, ← hopener]
      · cases h

theorem tokens_of_readHead {tags : List String} {opening : Position}
    (h : readHead stop position keyword tokens = .ok (.conditional opening tags inner, rest)) :
    ∃ read, tokens = read ++ inner.opener :: rest := by
  unfold readHead at h
  split at h
  · obtain ⟨_, _, _, hhead, _⟩ := Grammar.arguments_of_readBinary h
    cases hhead
  split at h
  · obtain ⟨_, _, _, hhead, _⟩ := Grammar.arguments_of_readBinary h
    cases hhead
  split at h
  · obtain ⟨_, _, hhead, _⟩ := Grammar.arguments_of_readUnary h
    cases hhead
  split at h
  · obtain ⟨_, _, hhead, _⟩ := Grammar.arguments_of_readUnary h
    cases hhead
  split at h
  · unfold readConditional at h
    split at h
    · cases h
    · cases h
    · rename_i tags more htags hread
      split at h
      · cases h
      · rename_i hopen
        cases h
        obtain ⟨read, htokens, _⟩ := Grammar.arguments_of_readArguments hread htags
        exact ⟨read, by rw [htokens, tokens_of_readOpener hopen]⟩
  split at h <;> cases h

theorem exists_append_of_readHead {head : Head}
    (h : readHead stop position keyword tokens = .ok (head, rest)) :
    ∃ read, tokens = read ++ rest := by
  obtain ⟨read, htokens, _⟩ := Grammar.headDerives_of_readHead h
  exact ⟨read, htokens⟩

theorem exists_append_of_readBody {part : ReadPart (List Statement) tokens}
    (h : readBody stop block tokens = .ok part) : ∃ read, tokens = read ++ part.rest := by
  obtain ⟨read, closer, htokens, _⟩ := Grammar.derives_of_readBody h
  exact ⟨read ++ [closer], htokens.trans (List.append_cons read closer part.rest)⟩

/-- An error in a block is about a token of the block, its opener among them. -/
theorem points_of_readBody (h : readBody stop block tokens = .error error) :
    Points stop (block.opener :: tokens) error := by
  fun_induction readBody stop block tokens with
  | case1 block =>
      cases h
      exact .head (.unclosed block.delimiter)
  | case2 block token position rest hseparator other hread ih =>
      cases h
      exact (ih hread).insert [⟨token, position⟩]
  | case3 =>
      cases h
  | case4 =>
      cases h
  | case5 block position rest keyword other hhead =>
      cases h
      exact (points_of_readHead hhead).append [block.opener]
  | case6 block position rest keyword statement next hhead hnext hends other hread _ _ ih =>
      cases h
      obtain ⟨read, hrest⟩ := exists_append_of_readHead hhead
      rw [hrest]
      exact (ih hread).insert (⟨.word keyword, position⟩ :: read)
  | case7 =>
      cases h
  | case8 block position rest keyword statement next hhead =>
      cases h
      obtain ⟨read, hrest⟩ := exists_append_of_readHead hhead
      rw [hrest]
      exact (points_unexpectedAt stop .endOfStatement next).append
        (block.opener :: ⟨.word keyword, position⟩ :: read)
  | case9 block position rest keyword opening tags inner next hhead hnext other hread _ _ ih =>
      cases h
      obtain ⟨read, hrest⟩ := tokens_of_readHead hhead
      rw [hrest]
      exact (ih hread).append (block.opener :: ⟨.word keyword, position⟩ :: read)
  | case10 block position rest keyword opening tags inner next hhead hnext innerBody after
      hafter hinner hends other hread _ _ _ ih =>
      cases h
      obtain ⟨read, hrest⟩ := exists_append_of_readHead hhead
      obtain ⟨innerTokens, hnext⟩ := exists_append_of_readBody hinner
      dsimp only at hnext
      rw [hrest, hnext, ← List.append_assoc]
      exact (ih hread).insert (⟨.word keyword, position⟩ :: (read ++ innerTokens))
  | case11 =>
      cases h
  | case12 block position rest keyword opening tags inner next hhead hnext innerBody after
      hafter hinner =>
      cases h
      obtain ⟨read, hrest⟩ := exists_append_of_readHead hhead
      obtain ⟨innerTokens, hnext⟩ := exists_append_of_readBody hinner
      dsimp only at hnext
      rw [hrest, hnext, ← List.append_assoc]
      exact (points_unexpectedAt stop .endOfStatement after).append
        (block.opener :: ⟨.word keyword, position⟩ :: (read ++ innerTokens))
  | case13 block position rest token =>
      cases h
      exact (Points.head (.notAStatement token)).append [block.opener]

/-! ### Documents -/

theorem points_of_readVariant (h : readVariant stop position tokens = .error error) :
    Points stop (⟨.word "configuration", position⟩ :: tokens) error := by
  unfold readVariant at h
  split at h
  · rename_i hread
    cases h
    exact (points_of_readArguments hread).append [_]
  · rename_i name more hread
    obtain ⟨read, htokens, _⟩ := Grammar.arguments_of_readArguments hread (by simp)
    rw [htokens]
    split at h
    · rename_i hopen
      cases h
      exact ((points_of_readOpener hopen).append read).append [_]
    · rename_i block after hopen
      split at h
      · rename_i hbody
        cases h
        rw [tokens_of_readOpener hopen]
        exact ((points_of_readBody hbody).append read).append [_]
      · cases h
  · cases h
    exact .head (.count "configuration" 1 _)

theorem points_of_readVariants (h : readVariants stop tokens = .error error) :
    Points stop tokens error := by
  fun_induction readVariants stop tokens with
  | case1 =>
      cases h
  | case2 token position rest hseparator ih =>
      exact (ih h).append [⟨token, position⟩]
  | case3 position rest other hvariant =>
      cases h
      exact points_of_readVariant hvariant
  | case4 position rest variant next hvariant hnext other hread _ ih =>
      cases h
      obtain ⟨read, hrest, _⟩ := Grammar.declares_of_readVariant hvariant
      rw [hrest]
      exact ((ih hread).append read).append [⟨.word "configuration", position⟩]
  | case5 =>
      cases h
  | case6 position rest word =>
      cases h
      exact .head (.outside word)
  | case7 position rest token =>
      cases h
      exact .head (.found .configuration token)

theorem points_of_ofTokens {stream : TokenStream} (h : Document.ofTokens stream = .error error) :
    Points stream.stop stream.tokens error :=
  points_of_readVariants (except_map_eq_error h)

/-! ## Errors of the evaluation -/

/-- What a phrase of the grammar flattens to. -/
def Grammar.Phrase.flatten (platform : Platform) : Grammar.Phrase → List Statement
  | .statement meaning => meaning.flatten platform
  | .statements meaning => flattenBody platform meaning
  | .body meaning => flattenBody platform meaning
  | .block meaning => flattenBody platform meaning

/-- A statement that gives a value to no valid name begins with the word to blame. -/
theorem Grammar.Derives.blames {phrase : Grammar.Phrase} (h : Grammar.Derives phrase tokens)
    {platform : Platform} {statement : Statement} (hmem : statement ∈ phrase.flatten platform)
    {cause : Cause} (hmisnamed : Misnamed statement cause) :
    Points stop tokens ⟨statement.position, cause⟩ := by
  induction h with
  | setVariable position harguments =>
      rw [List.mem_singleton.mp hmem] at hmisnamed ⊢
      cases hmisnamed with
      | ofVariable hname =>
          exact .head (.variableName _)
  | setAlias position keyword hkeyword harguments =>
      rw [List.mem_singleton.mp hmem] at hmisnamed ⊢
      cases hmisnamed with
      | ofAlias hname =>
          exact .head (.aliasName _ keyword hkeyword)
  | echo position harguments =>
      rw [List.mem_singleton.mp hmem] at hmisnamed
      cases hmisnamed
  | command position harguments =>
      rw [List.mem_singleton.mp hmem] at hmisnamed
      cases hmisnamed
  | onSystems position harguments htags hblock ih =>
      rw [Phrase.flatten, Statement.flatten] at hmem
      split at hmem
      · exact (ih hmem).append _
      · cases hmem
  | single hstatement ih =>
      rw [Phrase.flatten, flattenBody, flattenBody, List.append_nil] at hmem
      exact ih hmem
  | separated hstatement hgap hne htail ihstatement ihtail =>
      rw [Phrase.flatten, flattenBody, List.mem_append] at hmem
      rcases hmem with hmem | hmem
      · exact (ihstatement hmem).mono (by simp)
      · exact (ihtail hmem).append _
  | emptyBody hgap =>
      cases hmem
  | fullBody hbefore hbody hafter ih =>
      exact (ih hmem).mono (by simp)
  | doEnd opening closing hbody ih =>
      exact (ih hmem).mono (by simp)
  | braces opening closing hbody ih =>
      exact (ih hmem).mono (by simp)

theorem Grammar.Variants.blames {variants : List Variant} (h : Grammar.Variants variants tokens)
    {platform : Platform} {statement : Statement}
    (hmem : statement ∈ variants.flatMap fun variant => flattenBody platform variant.body)
    {cause : Cause} (hmisnamed : Misnamed statement cause) :
    Points stop tokens ⟨statement.position, cause⟩ := by
  induction h with
  | nil =>
      cases hmem
  | @cons variant variants head gap tail hvariant hgap htail ih =>
      rw [List.flatMap_cons, List.mem_append] at hmem
      rcases hmem with hmem | hmem
      · cases hvariant with
        | mk position harguments hblock =>
            apply (hblock.blames hmem hmisnamed).mono
            intro token htoken
            simp [htoken]
      · exact (ih hmem).append _

/-- A token of a source stands where its lexeme does. -/
theorem Lexical.Splits.exists_of_mem_locate {last : List Char} {pieces : List Piece}
    (h : Splits text pieces last) {before : List Char} {token : Located Token}
    (hmem : token ∈ locate before pieces) :
    ∃ gone lexeme rest, text = gone ++ (lexeme ++ rest) ∧
      token.position = .reached (before ++ gone) ∧ Lexeme lexeme token.value ∧
        IsWhole token.value rest := by
  induction h generalizing before with
  | last hgap =>
      cases hmem
  | @piece gap lexeme rest last value pieces hgap hlexeme hwhole hrest ih =>
      rw [locate] at hmem
      rcases List.mem_cons.mp hmem with rfl | hmem
      · exact ⟨gap, lexeme, rest, List.append_assoc _ _ _, rfl, hlexeme, hwhole⟩
      · obtain ⟨gone, other, after, hrest, hposition, hother⟩ := ih hmem
        refine ⟨gap ++ lexeme ++ gone, other, after, ?_, ?_, hother⟩
        · rw [hrest, List.append_assoc _ gone]
        · rw [hposition, Piece.text, List.append_assoc before]

theorem culprit_of_points {source : String} {stream : TokenStream}
    (htokens : tokenize source = .ok stream) (h : Points stream.stop stream.tokens error) :
    ∃ before rest, source.toList = before ++ rest ∧ error.position = .reached before ∧
      Culprit error.cause rest := by
  obtain ⟨pieces, last, hsplits, rfl⟩ := tokenize_eq_ok_iff.mp htokens
  rcases h with ⟨token, hmem, hblames, hposition⟩ | ⟨expected, rfl⟩
  · obtain ⟨gone, lexeme, rest, hsource, hat, hlexeme, hwhole⟩ :=
      hsplits.exists_of_mem_locate hmem
    exact ⟨gone, lexeme ++ rest, hsource, hposition.trans hat, .token hblames hlexeme hwhole⟩
  · exact ⟨source.toList, [], (List.append_nil _).symm, rfl, .ending⟩

theorem culprit_of_ofSource {source : String} (h : Document.ofSource source = .error error) :
    ∃ before rest, source.toList = before ++ rest ∧ error.position = .reached before ∧
      Culprit error.cause rest := by
  unfold Document.ofSource at h
  split at h
  · rename_i htokens
    cases h
    rw [tokenize] at htokens
    have hstart : Position.start = .reached [] := rfl
    rw [hstart] at htokens
    exact culprit_of_readTokens htokens
  · rename_i stream htokens
    exact culprit_of_points htokens (points_of_ofTokens h)

end Desktopfile

namespace Environment

open Desktopfile

/-- An evaluation that fails names the given origin and the position behind some part of
the source, and what the error is about comes next in the source. -/
theorem evaluate_error_culprit {platform : Platform} {origin source : String}
    {error : SourceError} (h : evaluate platform origin source = .error error) :
    error.origin = origin ∧ ∃ before rest, source.toList = before ++ rest ∧
      error.position = .reached before ∧ Culprit error.cause rest := by
  cases hparse : Document.parse origin source with
  | error other =>
      rw [evaluate, hparse] at h
      cases h
      unfold Document.parse at hparse
      split at hparse
      · rename_i hsource
        cases hparse
        exact ⟨rfl, culprit_of_ofSource hsource⟩
      · cases hparse
  | ok document =>
      rw [evaluate_eq hparse] at h
      cases hfirst : firstComplaint? platform document.variants with
      | none =>
          rw [hfirst] at h
          cases h
      | some complaint =>
          rw [hfirst] at h
          cases h
          obtain ⟨stream, htokens, before, rest, hstream, _, hvariants⟩ :=
            Grammar.parse_eq_ok_iff.mp hparse
          obtain ⟨statement, hmem, hcomplaint⟩ := List.exists_of_findSome?_eq_some hfirst
          obtain ⟨hmisnamed, hposition⟩ := Configuration.complaint?_eq_some_iff.mp hcomplaint
          have hblames : Points stream.stop rest complaint := by
            have hstatement :=
              @Grammar.Variants.blames stream.stop _ _ hvariants _ _ hmem _ hmisnamed
            rwa [← hposition] at hstatement
          have hpoints : Points stream.stop stream.tokens complaint := by
            rw [hstream]
            exact hblames.append before
          exact ⟨rfl, culprit_of_points htokens hpoints⟩

/-- A name that is not valid, in a block behind a text of two lines. -/
theorem evaluate_error_culprit_nested :
    evaluate .linux "D"
        "configuration :v do\n echo 'a\nb'; os :linux do env '1', 'x' end\nend" =
      .error ⟨"D", ⟨3, 18⟩, .invalidVariableName "1"⟩ ∧
    ∃ before rest,
      "configuration :v do\n echo 'a\nb'; os :linux do env '1', 'x' end\nend".toList =
        before ++ rest ∧
      (⟨3, 18⟩ : Position) = .reached before ∧ Culprit (.invalidVariableName "1") rest := by
  have htokens : tokenize
      "configuration :v do\n echo 'a\nb'; os :linux do env '1', 'x' end\nend" =
        .ok ⟨[⟨.word "configuration", ⟨1, 1⟩⟩, ⟨.symbol "v", ⟨1, 15⟩⟩, ⟨.word "do", ⟨1, 18⟩⟩,
          ⟨.newline, ⟨1, 20⟩⟩, ⟨.word "echo", ⟨2, 2⟩⟩, ⟨.string "a\nb", ⟨2, 7⟩⟩,
          ⟨.semicolon, ⟨3, 3⟩⟩, ⟨.word "os", ⟨3, 5⟩⟩, ⟨.symbol "linux", ⟨3, 8⟩⟩,
          ⟨.word "do", ⟨3, 15⟩⟩, ⟨.word "env", ⟨3, 18⟩⟩, ⟨.string "1", ⟨3, 22⟩⟩,
          ⟨.comma, ⟨3, 25⟩⟩, ⟨.string "x", ⟨3, 27⟩⟩, ⟨.word "end", ⟨3, 31⟩⟩,
          ⟨.newline, ⟨3, 34⟩⟩, ⟨.word "end", ⟨4, 1⟩⟩], ⟨4, 4⟩⟩ := by
    cbv
  have hvariable := Grammar.Derives.body_statement
    (.setVariable ⟨3, 18⟩ (.bare (.more ⟨3, 25⟩ (.string "1" ⟨3, 22⟩) Grammar.newlines_nil
      (.single (.string "x" ⟨3, 27⟩))))) .body_nil (by simp)
  have hsystems := Grammar.Derives.body_statement
    (.onSystems ⟨3, 5⟩ (.bare (.single (.symbol "linux" ⟨3, 8⟩))) (by simp)
      (.doEnd ⟨3, 15⟩ ⟨3, 31⟩ hvariable))
    (@Grammar.Derives.body_separator _ ⟨.newline, ⟨3, 34⟩⟩ _ rfl .body_nil)
    (by simp [Token.isSeparator])
  have hecho := Grammar.Derives.body_statement
    (.echo ⟨2, 2⟩ (.bare (.single (.string "a\nb" ⟨2, 7⟩))))
    (@Grammar.Derives.body_separator _ ⟨.semicolon, ⟨3, 3⟩⟩ _ rfl hsystems)
    (by simp [Token.isSeparator])
  have hvariants := Grammar.Variants.cons
    (.mk ⟨1, 1⟩ (.bare (.single (.symbol "v" ⟨1, 15⟩)))
      (.doEnd ⟨1, 18⟩ ⟨4, 1⟩
        (@Grammar.Derives.body_separator _ ⟨.newline, ⟨1, 20⟩⟩ _ rfl hecho)))
    Grammar.separators_nil .nil
  have hparse := (@Grammar.parse_eq_ok_iff "D" _ _).mpr
    ⟨_, htokens, [], _, rfl, Grammar.separators_nil, hvariants⟩
  have hevaluate := evaluate_eq hparse .linux
  exact ⟨hevaluate, (evaluate_error_culprit hevaluate).2⟩

end Environment

end Workspaces
