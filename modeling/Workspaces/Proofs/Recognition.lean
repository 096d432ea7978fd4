import Workspaces.Proofs.Grammar

/-!
# The reader recognizes the grammar

Soundness: whatever a reader takes from the front of some tokens derives what it
gives back.  Completeness: a reader takes a derivation off the front of any
tokens that cannot prolong it.  A comma would prolong arguments, and a statement
must be followed by a separator or by the closer of its block.  Both directions
together settle what the reader of documents accepts.
-/

namespace Workspaces.Desktopfile

namespace Grammar

/-! ## Arguments: soundness -/

theorem exists_newlines_skipNewlines (tokens : List (Located Token)) :
    ∃ gap, tokens = gap ++ skipNewlines tokens ∧ Newlines gap := by
  induction tokens with
  | nil =>
      exact ⟨[], rfl, newlines_nil⟩
  | cons token rest ih =>
      by_cases htoken : token.value = .newline
      · obtain ⟨gap, hgap, hnewlines⟩ := ih
        refine ⟨token :: gap, ?_, newlines_cons.mpr ⟨htoken, hnewlines⟩⟩
        rw [skipNewlines, if_pos htoken, List.cons_append, ← hgap]
      · refine ⟨[], ?_, newlines_nil⟩
        rw [skipNewlines, if_neg htoken, List.nil_append]

theorem values_of_readArgumentList {stop : Position} {tokens rest : List (Located Token)}
    {values : List String} (h : readArgumentList stop tokens = .ok (values, rest)) :
    ∃ read, tokens = read ++ rest ∧ Values values read := by
  fun_induction readArgumentList stop tokens generalizing values rest with
  | case1 =>
      cases h
  | case2 =>
      cases h
  | case3 token argument hargument =>
      cases h
      exact ⟨[token], rfl, .single (value_iff.mpr ⟨token, rfl, hargument⟩)⟩
  | case4 =>
      cases h
  | case5 token argument hargument next more hcomma others final hread ih =>
      cases h
      obtain ⟨gap, hgap, hnewlines⟩ := exists_newlines_skipNewlines more
      obtain ⟨read, hskip, hvalues⟩ := ih hread
      have hnext : next = ⟨.comma, next.position⟩ := by
        rw [← hcomma]
      refine ⟨[token] ++ ⟨.comma, next.position⟩ :: gap ++ read, ?_, ?_⟩
      · rw [← hnext]
        simp [← hskip, ← hgap]
      · exact .more next.position (value_iff.mpr ⟨token, rfl, hargument⟩) hnewlines hvalues
  | case6 token argument hargument next more hcomma =>
      cases h
      exact ⟨[token], rfl, .single (value_iff.mpr ⟨token, rfl, hargument⟩)⟩

theorem arguments_of_readParenthesized {stop opening : Position}
    {tokens rest : List (Located Token)} {values : List String}
    (h : readParenthesized stop tokens = .ok (values, rest)) (hvalues : values ≠ []) :
    ∃ read, ⟨.openParen, opening⟩ :: tokens = read ++ rest ∧ Arguments values read := by
  obtain ⟨before, hbefore, hnewlines⟩ := exists_newlines_skipNewlines tokens
  unfold readParenthesized at h
  split at h
  · cases h
    exact absurd rfl hvalues
  · split at h
    · cases h
    · rename_i between hread
      obtain ⟨list, hlist, hderived⟩ := values_of_readArgumentList hread
      obtain ⟨after, hafter, hnewlinesAfter⟩ := exists_newlines_skipNewlines between
      split at h
      · rename_i closing more hclose
        cases h
        refine ⟨⟨.openParen, opening⟩ :: before ++ list ++ after ++ [⟨.closeParen, closing⟩],
          ?_, .parenthesized opening closing hnewlines hderived hnewlinesAfter⟩
        rw [hclose] at hafter
        rw [hbefore, hlist, hafter]
        simp
      · cases h

theorem arguments_of_readArguments {stop : Position} {tokens rest : List (Located Token)}
    {values : List String} (h : readArguments stop tokens = .ok (values, rest))
    (hvalues : values ≠ []) : ∃ read, tokens = read ++ rest ∧ Arguments values read := by
  unfold readArguments at h
  split at h
  · cases h
    exact absurd rfl hvalues
  · exact arguments_of_readParenthesized h hvalues
  · split at h
    · obtain ⟨read, hread, hderived⟩ := values_of_readArgumentList h
      exact ⟨read, hread, .bare hderived⟩
    · cases h
      exact absurd rfl hvalues

/-! ## Arguments: completeness -/

/-- Nothing that follows could prolong a list of values. -/
def NoComma (tokens : List (Located Token)) : Prop :=
  ∀ token ∈ tokens.head?, token.value ≠ .comma

theorem skipNewlines_append {gap rest : List (Located Token)} (hgap : Newlines gap)
    (hrest : ∀ token ∈ rest.head?, token.value ≠ .newline) :
    skipNewlines (gap ++ rest) = rest := by
  induction gap with
  | nil =>
      cases rest with
      | nil =>
          rfl
      | cons token rest =>
          rw [List.nil_append, skipNewlines, if_neg (hrest token rfl)]
  | cons token gap ih =>
      obtain ⟨htoken, hgap⟩ := newlines_cons.mp hgap
      rw [List.cons_append, skipNewlines, if_pos htoken]
      exact ih hgap

theorem Values.head_ne_newline {values : List String} {tokens : List (Located Token)}
    (h : Values values tokens) (rest : List (Located Token)) :
    ∀ token ∈ (tokens ++ rest).head?, token.value ≠ .newline := by
  obtain ⟨first, tail, value, rfl, hfirst⟩ := h.head
  intro token htoken hnewline
  simp only [List.cons_append, List.head?_cons, Option.mem_def, Option.some.injEq] at htoken
  subst htoken
  simp [hnewline, Token.argument?] at hfirst

theorem Values.readArgumentList {values : List String} {tokens rest : List (Located Token)}
    (h : Values values tokens) (stop : Position) (hrest : NoComma rest) :
    readArgumentList stop (tokens ++ rest) = .ok (values, rest) := by
  induction h with
  | single hvalue =>
      obtain ⟨token, rfl, htoken⟩ := value_iff.mp hvalue
      rw [List.cons_append, List.nil_append, Desktopfile.readArgumentList]
      cases rest with
      | nil =>
          simp [htoken]
      | cons next rest =>
          have hnext : next.value ≠ .comma := hrest next rfl
          simp [htoken, hnext]
  | @more value values head gap tail comma hvalue hgap htail ih =>
      obtain ⟨token, rfl, htoken⟩ := value_iff.mp hvalue
      have hskip : skipNewlines (gap ++ (tail ++ rest)) = tail ++ rest :=
        skipNewlines_append hgap (htail.head_ne_newline rest)
      simp only [List.cons_append, List.nil_append, List.append_assoc]
      rw [Desktopfile.readArgumentList]
      simp [htoken, hskip, ih]

theorem Arguments.readArguments {values : List String} {tokens rest : List (Located Token)}
    (h : Arguments values tokens) (stop : Position) (hrest : NoComma rest) :
    readArguments stop (tokens ++ rest) = .ok (values, rest) := by
  cases h with
  | bare hvalues =>
      have hread := hvalues.readArgumentList stop hrest
      obtain ⟨⟨token, position⟩, tail, value, rfl, htoken⟩ := hvalues.head
      rw [List.cons_append] at hread ⊢
      cases token <;> simp_all [Desktopfile.readArguments, Token.argument?]
  | @parenthesized before list after opening closing hbefore hvalues hafter =>
      have hlist : NoComma (after ++ ⟨.closeParen, closing⟩ :: rest) := by
        cases after with
        | nil =>
            simp [NoComma]
        | cons token after =>
            simp [NoComma, (newlines_cons.mp hafter).1]
      have hread := hvalues.readArgumentList stop hlist
      have hskipBefore :
          skipNewlines (before ++ (list ++ (after ++ ⟨.closeParen, closing⟩ :: rest))) =
            list ++ (after ++ ⟨.closeParen, closing⟩ :: rest) :=
        skipNewlines_append hbefore (hvalues.head_ne_newline _)
      have hskipAfter : skipNewlines (after ++ ⟨.closeParen, closing⟩ :: rest) =
          ⟨.closeParen, closing⟩ :: rest :=
        skipNewlines_append hafter (by simp)
      obtain ⟨⟨token, position⟩, tail, value, rfl, htoken⟩ := hvalues.head
      simp only [List.cons_append, List.append_assoc, List.nil_append,
        Desktopfile.readArguments, readParenthesized] at hread hskipBefore ⊢
      rw [hskipBefore]
      cases token <;> simp_all [Token.argument?]

/-! ## Bodies: how the reader goes on -/

def bodyOf (stop : Position) (block : OpenBlock) (tokens : List (Located Token)) :
    Except SyntaxError (List Statement × List (Located Token)) :=
  (readBody stop block tokens).map fun part => (part.value, part.rest)

def consStatement (statement : Statement) :
    List Statement × List (Located Token) → List Statement × List (Located Token)
  | (body, rest) => (statement :: body, rest)

variable {stop position : Position} {block inner : OpenBlock}
variable {tokens next rest : List (Located Token)}

theorem bodyOf_separator {token : Located Token} (htoken : token.value.isSeparator = true) :
    bodyOf stop block (token :: rest) = bodyOf stop block rest := by
  unfold bodyOf
  rw [readBody.eq_def]
  simp only [htoken, if_true]
  cases readBody stop block rest <;> rfl

theorem bodyOf_separators {gap : List (Located Token)} (hgap : Separators gap) :
    bodyOf stop block (gap ++ rest) = bodyOf stop block rest := by
  induction gap with
  | nil =>
      rfl
  | cons token gap ih =>
      obtain ⟨htoken, hgap⟩ := separators_cons.mp hgap
      rw [List.cons_append, bodyOf_separator htoken]
      exact ih hgap

theorem Delimiter.closer_not_isSeparator (delimiter : Delimiter) :
    delimiter.closer.isSeparator = false := by
  cases delimiter <;> rfl

theorem bodyOf_closer {token : Located Token} (htoken : token.value = block.delimiter.closer) :
    bodyOf stop block (token :: rest) = .ok ([], rest) := by
  unfold bodyOf
  rw [readBody.eq_def]
  simp [htoken, Delimiter.closer_not_isSeparator, Except.map]

theorem bodyOf_whole {keyword : String} {statement : Statement}
    (hkeyword : keyword ∈ keywords)
    (hhead : readHead stop position keyword tokens = .ok (.whole statement, next))
    (hnext : endsStatement block.delimiter next = true) :
    bodyOf stop block (⟨.word keyword, position⟩ :: tokens) =
      (bodyOf stop block next).map (consStatement statement) := by
  have hcloser : Token.word keyword ≠ block.delimiter.closer :=
    (Token.isKeyword_word.mpr hkeyword).ne_closer block.delimiter
  unfold bodyOf
  rw [readBody]
  simp only [Token.isSeparator, Bool.false_eq_true, if_false, hcloser]
  split
  · simp_all
  · rename_i hread
    cases hread.symm.trans hhead
    simp only [hnext, if_true]
    cases readBody stop block next <;> rfl
  · rename_i hread
    cases hread.symm.trans hhead

theorem bodyOf_conditional {keyword : String} {tags : List String} {body : List Statement}
    {opening : Position} {more : List (Located Token)} (hkeyword : keyword ∈ keywords)
    (hhead : readHead stop position keyword tokens =
      .ok (.conditional opening tags inner, more))
    (hbody : bodyOf stop inner more = .ok (body, next))
    (hnext : endsStatement block.delimiter next = true) :
    bodyOf stop block (⟨.word keyword, position⟩ :: tokens) =
      (bodyOf stop block next).map (consStatement (.onSystems opening tags body)) := by
  have hcloser : Token.word keyword ≠ block.delimiter.closer :=
    (Token.isKeyword_word.mpr hkeyword).ne_closer block.delimiter
  obtain ⟨⟨innerBody, after, hshorter⟩, hinner, hpart⟩ := except_map_eq_ok hbody
  cases hpart
  unfold bodyOf
  rw [readBody]
  simp only [Token.isSeparator, Bool.false_eq_true, if_false, hcloser]
  split
  · simp_all
  · rename_i hread
    cases hread.symm.trans hhead
  · rename_i hread
    cases hread.symm.trans hhead
    simp only [hinner, hnext, if_true]
    cases readBody stop block after <;> rfl

/-! ## Bodies: soundness -/

theorem derives_block {delimiter : Delimiter} {opener closer : Located Token}
    {body : List Statement} (hopener : opener.value = delimiter.opener)
    (hcloser : closer.value = delimiter.closer) (h : Derives (.body body) tokens) :
    Derives (.block body) (opener :: tokens ++ [closer]) := by
  obtain ⟨opener, opening⟩ := opener
  obtain ⟨closer, closing⟩ := closer
  cases hopener
  cases hcloser
  cases delimiter with
  | doEnd =>
      exact .doEnd opening closing h
  | braces =>
      exact .braces opening closing h

theorem opener_of_readOpener (h : readOpener stop tokens = .ok (block, rest)) :
    ∃ opener, tokens = opener :: rest ∧ opener.value = block.delimiter.opener := by
  unfold readOpener at h
  split at h
  · cases h
  · rename_i token more
    split at h
    · rename_i hopener
      cases h
      exact ⟨token, rfl, hopener⟩
    · split at h
      · rename_i hopener
        cases h
        exact ⟨token, rfl, hopener⟩
      · cases h

theorem arguments_of_readUnary {keyword : String} {make : String → Statement} {head : Head}
    (h : readUnary stop position keyword make tokens = .ok (head, rest)) :
    ∃ text read, head = .whole (make text) ∧ tokens = read ++ rest ∧
      Arguments [text] read := by
  unfold readUnary at h
  split at h
  · cases h
  · rename_i text more hread
    cases h
    obtain ⟨read, htokens, hderived⟩ := arguments_of_readArguments hread (by simp)
    exact ⟨text, read, rfl, htokens, hderived⟩
  · cases h

theorem arguments_of_readBinary {keyword : String} {make : String → String → Statement}
    {head : Head} (h : readBinary stop position keyword make tokens = .ok (head, rest)) :
    ∃ name value read, head = .whole (make name value) ∧ tokens = read ++ rest ∧
      Arguments [name, value] read := by
  unfold readBinary at h
  split at h
  · cases h
  · rename_i name value more hread
    cases h
    obtain ⟨read, htokens, hderived⟩ := arguments_of_readArguments hread (by simp)
    exact ⟨name, value, read, rfl, htokens, hderived⟩
  · cases h

theorem arguments_of_readConditional {head : Head}
    (h : readConditional stop position tokens = .ok (head, rest)) :
    ∃ tags block read opener, head = .conditional position tags block ∧
      tokens = read ++ opener :: rest ∧ Arguments tags read ∧
        opener.value = block.delimiter.opener := by
  unfold readConditional at h
  split at h
  · cases h
  · cases h
  · rename_i tags more hne hread
    have htags : tags ≠ [] := by
      rintro rfl
      exact hne rfl
    obtain ⟨read, htokens, hderived⟩ := arguments_of_readArguments hread htags
    split at h
    · cases h
    · rename_i block after hopen
      cases h
      obtain ⟨opener, hmore, hopener⟩ := opener_of_readOpener hopen
      exact ⟨tags, block, read, opener, rfl, hmore ▸ htokens, hderived, hopener⟩

/-- What the first word of a statement and the tokens read with it derive. -/
def HeadDerives (position : Position) (keyword : String) (read : List (Located Token)) :
    Head → Prop
  | .whole statement => Derives (.statement statement) (⟨.word keyword, position⟩ :: read)
  | .conditional opening tags block =>
      keyword = "os" ∧ opening = position ∧ ∃ arguments opener,
        read = arguments ++ [opener] ∧ Arguments tags arguments ∧
          opener.value = block.delimiter.opener

theorem headDerives_of_readHead {keyword : String} {head : Head}
    (h : readHead stop position keyword tokens = .ok (head, rest)) :
    ∃ read, tokens = read ++ rest ∧ HeadDerives position keyword read head := by
  unfold readHead at h
  split at h
  · rename_i hkeyword
    obtain ⟨name, value, read, rfl, htokens, hderived⟩ := arguments_of_readBinary h
    exact ⟨read, htokens, hkeyword ▸ .setVariable position hderived⟩
  split at h
  · rename_i hkeyword
    obtain ⟨name, value, read, rfl, htokens, hderived⟩ := arguments_of_readBinary h
    exact ⟨read, htokens, .setAlias position keyword hkeyword.symm hderived⟩
  split at h
  · rename_i hkeyword
    obtain ⟨text, read, rfl, htokens, hderived⟩ := arguments_of_readUnary h
    exact ⟨read, htokens, hkeyword ▸ .echo position hderived⟩
  split at h
  · rename_i hkeyword
    obtain ⟨text, read, rfl, htokens, hderived⟩ := arguments_of_readUnary h
    exact ⟨read, htokens, hkeyword ▸ .command position hderived⟩
  split at h
  · rename_i hkeyword
    obtain ⟨tags, block, read, opener, rfl, htokens, hderived, hopener⟩ :=
      arguments_of_readConditional h
    refine ⟨read ++ [opener], ?_, hkeyword, rfl, read, opener, rfl, hderived, hopener⟩
    rw [htokens, List.append_assoc]
    rfl
  split at h <;> cases h

/-- After a statement that may end here, a body goes on with a separator, if at all. -/
theorem separator_of_endsStatement {delimiter : Delimiter} {body : List Statement}
    {read : List (Located Token)} {closer : Located Token}
    (hends : endsStatement delimiter (read ++ closer :: rest) = true)
    (hbody : Derives (.body body) read) :
    ∀ token ∈ read.head?, token.value.isSeparator = true := by
  cases read with
  | nil =>
      intro token htoken
      cases htoken
  | cons first read =>
      intro token htoken
      cases htoken
      rcases hbody.body_head with hseparator | hkeyword
      · exact hseparator
      · simp only [List.cons_append, endsStatement, Bool.or_eq_true, decide_eq_true_eq]
          at hends
        rcases hends with hseparator | hcloser
        · exact hseparator
        · exact absurd hcloser (hkeyword.ne_closer delimiter)

theorem derives_of_readBody {part : ReadPart (List Statement) tokens}
    (h : readBody stop block tokens = .ok part) :
    ∃ read closer, tokens = read ++ closer :: part.rest ∧
      closer.value = block.delimiter.closer ∧ Derives (.body part.value) read := by
  fun_induction readBody stop block tokens with
  | case1 =>
      cases h
  | case2 =>
      cases h
  | case3 block token position rest hseparator body more hmore hread ih =>
      cases h
      obtain ⟨read, closer, hrest, hcloser, hbody⟩ := ih hread
      refine ⟨⟨token, position⟩ :: read, closer, ?_, hcloser, ?_⟩
      · dsimp only at hrest ⊢
        rw [hrest]
        rfl
      · exact .body_separator hseparator hbody
  | case4 block position rest =>
      cases h
      exact ⟨[], _, rfl, rfl, .body_nil⟩
  | case5 =>
      cases h
  | case6 =>
      cases h
  | case7 block position rest keyword statement next hhead hnext hends body more hmore hread
      hseparator hcloser ih =>
      cases h
      obtain ⟨first, hfirst, hstatement⟩ := headDerives_of_readHead hhead
      obtain ⟨read, closer, hrest, hclose, hbody⟩ := ih hread
      have hgap := separator_of_endsStatement (hrest ▸ hends) hbody
      refine ⟨⟨.word keyword, position⟩ :: first ++ read, closer, ?_, hclose, ?_⟩
      · dsimp only at hrest ⊢
        rw [hfirst, hrest]
        simp
      · exact .body_statement hstatement hbody hgap
  | case8 =>
      cases h
  | case9 =>
      cases h
  | case10 =>
      cases h
  | case11 block position rest keyword opening tags inner next hhead hnext innerBody after
      hafter hinnerRead hends body more hmore hread hseparator hcloser ihinner ih =>
      cases h
      obtain ⟨first, hfirst, rfl, rfl, arguments, opener, rfl, harguments, hopener⟩ :=
        headDerives_of_readHead hhead
      obtain ⟨innerTokens, innerCloser, hinner, hinnerCloser, hinnerBody⟩ :=
        ihinner hinnerRead
      obtain ⟨read, closer, hrest, hclose, hbody⟩ := ih hread
      have hgap := separator_of_endsStatement (hrest ▸ hends) hbody
      have hblock := derives_block hopener hinnerCloser hinnerBody
      have htags : 1 ≤ tags.length := List.length_pos_iff.mpr harguments.ne_nil
      refine ⟨⟨.word "os", opening⟩ :: arguments ++
        (opener :: innerTokens ++ [innerCloser]) ++ read, closer, ?_, hclose, ?_⟩
      · dsimp only at hinner hrest ⊢
        rw [hfirst, hinner, hrest]
        simp
      · exact .body_statement (.onSystems opening harguments htags hblock) hbody hgap
  | case12 =>
      cases h
  | case13 =>
      cases h

/-! ## Bodies: completeness -/

theorem noComma_of_endsStatement {delimiter : Delimiter}
    (h : endsStatement delimiter tokens = true) : NoComma tokens := by
  cases tokens with
  | nil =>
      intro token htoken
      cases htoken
  | cons first tokens =>
      intro token htoken hcomma
      cases htoken
      cases delimiter <;>
        simp [endsStatement, hcomma, Token.isSeparator, Delimiter.closer] at h

theorem endsStatement_of_separators {delimiter : Delimiter} {gap : List (Located Token)}
    (hgap : Separators gap) (hne : gap ≠ []) :
    endsStatement delimiter (gap ++ rest) = true := by
  cases gap with
  | nil =>
      exact absurd rfl hne
  | cons token gap =>
      simp [endsStatement, (separators_cons.mp hgap).1]

theorem endsStatement_closer {delimiter : Delimiter} {after : List (Located Token)}
    {closer : Located Token} (hafter : Separators after)
    (hcloser : closer.value = delimiter.closer) :
    endsStatement delimiter (after ++ closer :: rest) = true := by
  cases after with
  | nil =>
      simp [endsStatement, hcloser]
  | cons token after =>
      simp [endsStatement, (separators_cons.mp hafter).1]

theorem Arguments.readUnary {text : String} {read : List (Located Token)}
    (h : Arguments [text] read) (hrest : NoComma rest) (stop position : Position)
    (keyword : String) (make : String → Statement) :
    readUnary stop position keyword make (read ++ rest) =
      .ok (.whole (make text), rest) := by
  unfold Desktopfile.readUnary
  rw [h.readArguments stop hrest]

theorem Arguments.readBinary {name value : String} {read : List (Located Token)}
    (h : Arguments [name, value] read) (hrest : NoComma rest) (stop position : Position)
    (keyword : String) (make : String → String → Statement) :
    readBinary stop position keyword make (read ++ rest) =
      .ok (.whole (make name value), rest) := by
  unfold Desktopfile.readBinary
  rw [h.readArguments stop hrest]

theorem readOpener_of_opener {opener : Located Token} {delimiter : Delimiter}
    (h : opener.value = delimiter.opener) :
    readOpener stop (opener :: rest) = .ok (⟨delimiter, opener.position⟩, rest) := by
  cases delimiter <;> simp [readOpener, h, Delimiter.opener]

/-- How the reader takes a phrase off the front of some tokens. -/
def Phrase.Read (tokens : List (Located Token)) : Phrase → Prop
  | .statement meaning => ∀ stop block next, endsStatement block.delimiter next = true →
      bodyOf stop block (tokens ++ next) =
        (bodyOf stop block next).map (consStatement meaning)
  | .statements meaning => ∀ stop block after closer rest, Separators after →
      closer.value = block.delimiter.closer →
        bodyOf stop block (tokens ++ (after ++ closer :: rest)) = .ok (meaning, rest)
  | .body meaning => ∀ stop block closer rest, closer.value = block.delimiter.closer →
      bodyOf stop block (tokens ++ closer :: rest) = .ok (meaning, rest)
  | .block meaning => ∀ stop rest, NoComma (tokens ++ rest) ∧ ∃ block more,
      readOpener stop (tokens ++ rest) = .ok (block, more) ∧
        bodyOf stop block more = .ok (meaning, rest)

theorem Derives.read {phrase : Phrase} {tokens : List (Located Token)}
    (h : Derives phrase tokens) : phrase.Read tokens := by
  induction h with
  | setVariable position harguments =>
      intro stop block next hnext
      have hread := harguments.readBinary (noComma_of_endsStatement hnext) stop position
        "env" (.setVariable position)
      exact bodyOf_whole (by simp [keywords]) (by simpa [readHead] using hread) hnext
  | setAlias position keyword hkeyword harguments =>
      intro stop block next hnext
      have hread := harguments.readBinary (noComma_of_endsStatement hnext) stop position
        keyword (.setAlias position)
      rcases hkeyword with rfl | rfl
      · exact bodyOf_whole (by simp [keywords]) (by simpa [readHead] using hread) hnext
      · exact bodyOf_whole (by simp [keywords]) (by simpa [readHead] using hread) hnext
  | echo position harguments =>
      intro stop block next hnext
      have hread := harguments.readUnary (noComma_of_endsStatement hnext) stop position
        "echo" (.echo position)
      exact bodyOf_whole (by simp [keywords]) (by simpa [readHead] using hread) hnext
  | command position harguments =>
      intro stop block next hnext
      have hread := harguments.readUnary (noComma_of_endsStatement hnext) stop position
        "cmd" (.command position)
      exact bodyOf_whole (by simp [keywords]) (by simpa [readHead] using hread) hnext
  | @onSystems tags body arguments blockTokens position harguments htags hblock ih =>
      intro stop block next hnext
      obtain ⟨hcomma, inner, more, hopener, hbody⟩ := ih stop next
      have hread := harguments.readArguments stop hcomma
      have hhead : readHead stop position "os" (arguments ++ (blockTokens ++ next)) =
          .ok (.conditional position tags inner, more) := by
        cases tags with
        | nil =>
            cases htags
        | cons tag tags =>
            simp [readHead, readConditional, hread, hopener]
      rw [List.append_assoc]
      exact bodyOf_conditional (by simp [keywords]) hhead hbody hnext
  | single hstatement ih =>
      intro stop block after closer rest hafter hcloser
      rw [ih stop block _ (endsStatement_closer hafter hcloser), bodyOf_separators hafter,
        bodyOf_closer hcloser]
      rfl
  | @separated statement body head gap tail hstatement hgap hne htail ihstatement ihtail =>
      intro stop block after closer rest hafter hcloser
      rw [List.append_assoc, List.append_assoc,
        ihstatement stop block _ (endsStatement_of_separators hgap hne),
        bodyOf_separators hgap, ihtail stop block after closer rest hafter hcloser]
      rfl
  | emptyBody hgap =>
      intro stop block closer rest hcloser
      rw [bodyOf_separators hgap, bodyOf_closer hcloser]
  | fullBody hbefore hbody hafter ih =>
      intro stop block closer rest hcloser
      rw [List.append_assoc, List.append_assoc, bodyOf_separators hbefore]
      exact ih stop block _ closer rest hafter hcloser
  | doEnd opening closing hbody ih =>
      intro stop rest
      rw [List.append_assoc]
      exact ⟨by simp [NoComma], ⟨.doEnd, opening⟩, _, readOpener_of_opener rfl,
        ih stop ⟨.doEnd, opening⟩ ⟨.word "end", closing⟩ rest rfl⟩
  | braces opening closing hbody ih =>
      intro stop rest
      rw [List.append_assoc]
      exact ⟨by simp [NoComma], ⟨.braces, opening⟩, _, readOpener_of_opener rfl,
        ih stop ⟨.braces, opening⟩ ⟨.closeBrace, closing⟩ rest rfl⟩

/-! ## Documents -/

theorem declares_of_readVariant {variant : Variant}
    (h : readVariant stop position tokens = .ok (variant, rest)) :
    ∃ read, tokens = read ++ rest ∧
      Declares variant (⟨.word "configuration", position⟩ :: read) := by
  unfold readVariant at h
  split at h
  · cases h
  · rename_i name after hread
    obtain ⟨arguments, htokens, harguments⟩ := arguments_of_readArguments hread (by simp)
    split at h
    · cases h
    · rename_i block more hopen
      obtain ⟨opener, hafter, hopener⟩ := opener_of_readOpener hopen
      split at h
      · cases h
      · rename_i body hbody
        cases h
        obtain ⟨inner, closer, hmore, hcloser, hderived⟩ := derives_of_readBody hbody
        refine ⟨arguments ++ (opener :: inner ++ [closer]), ?_,
          .mk position harguments (derives_block hopener hcloser hderived)⟩
        rw [htokens, hafter]
        simp [← hmore]
  · cases h

theorem Declares.readVariant {variant : Variant} {read : List (Located Token)}
    (h : Declares variant read) (stop : Position) (rest : List (Located Token)) :
    ∃ tail, read = ⟨.word "configuration", variant.position⟩ :: tail ∧
      readVariant stop variant.position (tail ++ rest) = .ok (variant, rest) := by
  cases h with
  | @mk name body arguments block position harguments hblock =>
      obtain ⟨hcomma, inner, more, hopener, hbody⟩ := hblock.read stop rest
      obtain ⟨part, hpart, hpair⟩ := except_map_eq_ok hbody
      cases hpair
      have hread := harguments.readArguments stop hcomma
      refine ⟨arguments ++ block, rfl, ?_⟩
      rw [List.append_assoc, Desktopfile.readVariant]
      simp only [hread, hopener, hpart]

theorem readVariants_separators {gap : List (Located Token)} (hgap : Separators gap) :
    readVariants stop (gap ++ rest) = readVariants stop rest := by
  induction gap with
  | nil =>
      rfl
  | cons token gap ih =>
      obtain ⟨htoken, hgap⟩ := separators_cons.mp hgap
      rw [List.cons_append, readVariants.eq_def]
      simp only [htoken, if_true]
      exact ih hgap

theorem readVariants_variant {variant : Variant} {next : List (Located Token)}
    (h : readVariant stop position tokens = .ok (variant, next)) :
    readVariants stop (⟨.word "configuration", position⟩ :: tokens) =
      (readVariants stop next).map (variant :: ·) := by
  rw [readVariants]
  simp only [Token.isSeparator, Bool.false_eq_true, if_false, if_true]
  split
  · rename_i hread
    cases hread.symm.trans h
  · rename_i hread
    cases hread.symm.trans h
    cases readVariants stop next <;> rfl

theorem variants_of_readVariants {variants : List Variant}
    (h : readVariants stop tokens = .ok variants) :
    ∃ before rest, tokens = before ++ rest ∧ Separators before ∧ Variants variants rest := by
  fun_induction readVariants stop tokens generalizing variants with
  | case1 =>
      cases h
      exact ⟨[], [], rfl, separators_nil, .nil⟩
  | case2 token position rest hseparator ih =>
      obtain ⟨before, tail, rfl, hbefore, hvariants⟩ := ih h
      exact ⟨⟨token, position⟩ :: before, tail, rfl,
        separators_cons.mpr ⟨hseparator, hbefore⟩, hvariants⟩
  | case3 =>
      cases h
  | case4 =>
      cases h
  | case5 position rest variant next hvariant hnext others hothers hseparator ih =>
      cases h
      obtain ⟨read, rfl, hdeclares⟩ := declares_of_readVariant hvariant
      obtain ⟨before, tail, rfl, hbefore, hvariants⟩ := ih hothers
      refine ⟨[], ⟨.word "configuration", position⟩ :: read ++ before ++ tail, ?_,
        separators_nil, .cons hdeclares hbefore hvariants⟩
      simp
  | case6 =>
      cases h
  | case7 =>
      cases h

/-- Variants are read off the front of any tokens. -/
theorem Variants.readVariants_append {variants : List Variant} {tokens : List (Located Token)}
    (h : Variants variants tokens) (stop : Position) (rest : List (Located Token)) :
    readVariants stop (tokens ++ rest) = (readVariants stop rest).map (variants ++ ·) := by
  induction h with
  | nil =>
      rw [List.nil_append]
      cases readVariants stop rest <;> rfl
  | @cons variant variants head gap tail hvariant hgap htail ih =>
      obtain ⟨read, rfl, hread⟩ := hvariant.readVariant stop (gap ++ (tail ++ rest))
      rw [List.append_assoc, List.append_assoc, List.cons_append, readVariants_variant hread,
        readVariants_separators hgap, ih]
      cases readVariants stop rest <;> rfl

theorem Spells.readVariants_append {document : Document} {tokens : List (Located Token)}
    (h : Spells document tokens) (stop : Position) (rest : List (Located Token)) :
    readVariants stop (tokens ++ rest) =
      (readVariants stop rest).map (document.variants ++ ·) := by
  obtain ⟨before, after, rfl, hbefore, hvariants⟩ := h
  rw [List.append_assoc, readVariants_separators hbefore]
  exact hvariants.readVariants_append stop rest

theorem ofTokens_eq_ok_iff {stream : TokenStream} {document : Document} :
    Document.ofTokens stream = .ok document ↔ Spells document stream.tokens := by
  constructor
  · intro h
    obtain ⟨variants, hread, rfl⟩ := except_map_eq_ok h
    exact variants_of_readVariants hread
  · intro h
    have hread := h.readVariants_append stream.stop []
    rw [List.append_nil, readVariants, Except.map, List.append_nil] at hread
    rw [Document.ofTokens, hread]
    rfl

theorem parse_eq_ok_iff {origin source : String} {document : Document} :
    Document.parse origin source = .ok document ↔
      ∃ stream, tokenize source = .ok stream ∧ Spells document stream.tokens := by
  unfold Document.parse Document.ofSource
  cases tokenize source with
  | error error =>
      simp
  | ok stream =>
      simp only [Except.ok.injEq, exists_eq_left', ← ofTokens_eq_ok_iff]
      cases Document.ofTokens stream <;> simp

theorem Spells.unique {first second : Document} {tokens : List (Located Token)}
    (hfirst : Spells first tokens) (hsecond : Spells second tokens) : first = second := by
  have hread : Document.ofTokens ⟨tokens, .start⟩ = .ok first := ofTokens_eq_ok_iff.mpr hfirst
  rw [ofTokens_eq_ok_iff.mpr hsecond] at hread
  cases hread
  rfl

/-- The reader accepts exactly the token lists of the grammar and gives back their only
document, in which every variant and statement stands at its own keyword. -/
theorem ofTokens_recognizes (stream : TokenStream) :
    (∀ document, Document.ofTokens stream = .ok document ↔
        Spells document stream.tokens) ∧
      (∀ first second, Spells first stream.tokens → Spells second stream.tokens →
        first = second) ∧
      (∀ document, Spells document stream.tokens →
        document.positions = keywordPositions stream.tokens) ∧
      ((∃ error, Document.ofTokens stream = .error error) ↔
        ¬ ∃ document, Spells document stream.tokens) := by
  refine ⟨fun document => ofTokens_eq_ok_iff, fun first second => Spells.unique,
    fun document => Spells.positions_eq, ?_⟩
  constructor
  · rintro ⟨error, herror⟩ ⟨document, hspells⟩
    rw [ofTokens_eq_ok_iff.mpr hspells] at herror
    cases herror
  · intro hnone
    cases hread : Document.ofTokens stream with
    | error error =>
        exact ⟨error, rfl⟩
    | ok document =>
        exact absurd ⟨document, ofTokens_eq_ok_iff.mp hread⟩ hnone

end Grammar

end Workspaces.Desktopfile
