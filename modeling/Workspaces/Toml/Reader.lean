import Workspaces.Toml.Quoted
import Workspaces.Toml.Scalar
import Workspaces.Toml.Tree

/-!
# Reading the lines of a TOML document

A document is read as a list of lines: pairs of a key and a value, headers in
single and in double brackets.  Values may be nested eighty deep, and a key has
at most eighty parts.  A value between brackets or braces may go over several
lines.  What a reader gives back is shorter than what it was given.
-/

namespace Workspaces.Toml

/-- What was read of a text, and the text after it. -/
structure Parsed (α : Type) (text : List Char) where
  value : α
  rest : List Char
  shorter : rest.length < text.length

/-- A reader of values that stand at the beginning of a text. -/
abbrev Reader (α : Type) := (text : List Char) → Option (Parsed α text)

/-! ## Gaps -/

def skipBlanks (text : List Char) : List Char := text.dropWhile isBlankChar

/-- The text from the end of the line on; a comment is open. -/
def skipComment : List Char → Option (List Char)
  | [] => some []
  | c :: rest =>
    if c = '\n' then some (c :: rest)
    else if c = '\r' ∧ rest.head? = some '\n' then some (c :: rest)
    else if isControl c then none
    else skipComment rest

theorem length_skipBlanks (text : List Char) : (skipBlanks text).length ≤ text.length :=
  (List.dropWhile_sublist isBlankChar).length_le

theorem length_skipComment {text rest : List Char} (h : skipComment text = some rest) :
    rest.length ≤ text.length := by
  fun_induction skipComment text with
  | case1 => simp_all
  | case2 => simp_all
  | case3 => simp_all
  | case4 => simp at h
  | case5 c more _ _ _ ih =>
    have := ih h
    simp only [List.length_cons]
    omega

/-- The text after blanks, line ends and comments. -/
def skipFiller (text : List Char) : Option (List Char) :=
  match text with
  | [] => some []
  | c :: rest =>
    if isBlankChar c ∨ c = '\n' then skipFiller rest
    else if c = '\r' ∧ rest.head? = some '\n' then skipFiller rest
    else if c = '#' then
      match hcomment : skipComment rest with
      | none => none
      | some next =>
        have := length_skipComment hcomment
        skipFiller next
    else some (c :: rest)
termination_by text.length

theorem length_skipFiller {text rest : List Char} (h : skipFiller text = some rest) :
    rest.length ≤ text.length := by
  fun_induction skipFiller text with
  | case1 => simp_all
  | case2 c more _ ih =>
    have := ih h
    simp only [List.length_cons]
    omega
  | case3 c more _ _ ih =>
    have := ih h
    simp only [List.length_cons]
    omega
  | case4 => simp at h
  | case5 more _ _ next _ _ ih =>
    have := ih h
    have := length_skipComment ‹skipComment _ = some _›
    simp only [List.length_cons]
    omega
  | case6 => simp_all

/-- The text after a line end or nothing at all. -/
def skipNewline : List Char → Option (List Char)
  | [] => some []
  | '\n' :: rest => some rest
  | '\r' :: '\n' :: rest => some rest
  | _ => none

/-- The text after the end of the line; only blanks and a comment may stand before it. -/
def skipLineEnd (text : List Char) : Option (List Char) :=
  match skipBlanks text with
  | '#' :: rest => (skipComment rest).bind skipNewline
  | rest => skipNewline rest

theorem length_skipNewline {text rest : List Char} (h : skipNewline text = some rest) :
    rest.length ≤ text.length := by
  unfold skipNewline at h
  split at h <;> simp_all
  omega

theorem length_skipLineEnd {text rest : List Char} (h : skipLineEnd text = some rest) :
    rest.length ≤ text.length := by
  have hblanks := length_skipBlanks text
  unfold skipLineEnd at h
  split at h
  · rename_i more heq
    obtain ⟨after, hcomment, hnewline⟩ := Option.bind_eq_some_iff.1 h
    have := length_skipComment hcomment
    have := length_skipNewline hnewline
    rw [heq, List.length_cons] at hblanks
    omega
  · exact Nat.le_trans (length_skipNewline h) hblanks

/-- What may stand between the parts of a pair. -/
structure Gap where
  skip : List Char → Option (List Char)
  length_skip : ∀ {text rest}, skip text = some rest → rest.length ≤ text.length

/-- The gaps of a pair on a line of its own: blanks. -/
def Gap.blanks : Gap where
  skip text := some (skipBlanks text)
  length_skip := fun {text _} h => Option.some.inj h ▸ length_skipBlanks text

/-- The gaps of a pair between braces: blanks, line ends and comments. -/
def Gap.filler : Gap := ⟨skipFiller, length_skipFiller⟩

/-! ## Keys -/

def isKeyChar (c : Char) : Bool := c.isAlphanum || c = '_' || c = '-'

/-- One part of a key, bare or quoted. -/
def readKeyPart (text : List Char) : Option (String × List Char) :=
  match text with
  | [] => none
  | c :: _ =>
    if c = '"' ∨ c = '\'' then
      (readQuotedLine text).map fun (part, rest) => (String.ofList part, rest)
    else if isKeyChar c then
      some (String.ofList (text.takeWhile isKeyChar), text.dropWhile isKeyChar)
    else none

theorem length_readKeyPart {text rest : List Char} {part : String}
    (h : readKeyPart text = some (part, rest)) : rest.length < text.length := by
  unfold readKeyPart at h
  split at h
  · simp at h
  · rename_i c more
    split at h
    · obtain ⟨⟨inner, last⟩, hread, heq⟩ := Option.map_eq_some_iff.1 h
      simp only [Prod.mk.injEq] at heq
      exact heq.2 ▸ length_readQuotedLine hread
    · split at h
      · rename_i hkey
        simp only [Option.some.injEq, Prod.mk.injEq, List.dropWhile_cons_of_pos hkey] at h
        have := (List.dropWhile_sublist (l := more) isKeyChar).length_le
        rw [h.2] at this
        exact Nat.lt_succ_of_le this
      · simp at h

/-- How deep values may be nested, and how many parts a key may have. -/
def maxDepth : Nat := 80

/-- A key of one part or of several with dots between them. -/
def readKeyParts (text : List Char) : Option (Parsed Key text) :=
  match hpart : readKeyPart text with
  | none => none
  | some (part, rest) =>
    have hrest := length_readKeyPart hpart
    have hblanks := Nat.lt_of_le_of_lt (length_skipBlanks rest) hrest
    match hdot : skipBlanks rest with
    | '.' :: next =>
      have hnext : (skipBlanks next).length < text.length := by
        have := length_skipBlanks next
        rw [hdot, List.length_cons] at hblanks
        omega
      (readKeyParts (skipBlanks next)).map fun key =>
        ⟨⟨part :: key.value.tables, key.value.name⟩, key.rest, Nat.lt_trans key.shorter hnext⟩
    | after => some ⟨⟨[], part⟩, after, by rw [← hdot]; exact hblanks⟩
termination_by text.length

/-- A key that has not too many parts. -/
def readKey (text : List Char) : Option (Parsed Key text) :=
  (readKeyParts text).filter fun key => key.value.tables.length < maxDepth

/-! ## Values -/

/-- A value that is neither an array nor a table. -/
def readScalar (text : List Char) : Option (Parsed Value text) :=
  match text with
  | [] => none
  | c :: more =>
    if c = '"' ∨ c = '\'' then
      match hquoted : readQuoted (c :: more) with
      | none => none
      | some (string, rest) =>
        some ⟨.string (String.ofList string), rest, length_readQuoted hquoted⟩
    else
      match hword : readWord (c :: more) with
      | (word, rest) =>
        if hne : word = [] then none
        else
          (ofWord? word).map fun value => ⟨value, rest, by
            have happend := congrArg List.length (append_readWord (c :: more))
            have := List.length_pos_iff.2 hne
            simp only [hword, List.length_append] at happend
            omega⟩

/-- The items of an array up to its closing bracket. -/
def readItems (item : Reader Value) (text : List Char) : Option (Parsed (List Value) text) :=
  match hfiller : skipFiller text with
  | none => none
  | some [] => none
  | some (c :: more) =>
    have hmore := length_skipFiller hfiller
    if c = ']' then some ⟨[], more, hmore⟩
    else
      match item (c :: more) with
      | none => none
      | some first =>
        have hfirst := Nat.lt_of_lt_of_le first.shorter hmore
        match hafter : skipFiller first.rest with
        | some (',' :: next) =>
          have hnext := Nat.lt_of_lt_of_le (length_skipFiller hafter) (Nat.le_of_lt hfirst)
          (readItems item next).map fun others =>
            ⟨first.value :: others.value, others.rest, Nat.lt_trans others.shorter hnext⟩
        | some (']' :: next) =>
          some ⟨[first.value], next,
            Nat.lt_of_lt_of_le (length_skipFiller hafter) (Nat.le_of_lt hfirst)⟩
        | _ => none
termination_by text.length

/-- A key, an equals sign and a value, with gaps of one kind between them. -/
def readPair (gap : Gap) (value : Reader Value) (text : List Char) :
    Option (Parsed (Key × Value) text) :=
  match readKey text with
  | none => none
  | some key =>
    match hequals : gap.skip key.rest with
    | some ('=' :: next) =>
      match hgap : gap.skip next with
      | none => none
      | some start =>
        (value start).map fun found =>
          ⟨(key.value, found.value), found.rest, by
            have hnext := gap.length_skip hequals
            rw [List.length_cons] at hnext
            have := gap.length_skip hgap
            have := key.shorter
            have := found.shorter
            omega⟩
    | _ => none

/-- The entries of a table between braces up to its closing brace, added to those
before them.  A comma may stand after the last one too. -/
def readInlineTable (value : Reader Value) (entries : Entries) (text : List Char) :
    Option (Parsed Entries text) :=
  match hfiller : skipFiller text with
  | none => none
  | some [] => none
  | some (c :: more) =>
    have hmore := length_skipFiller hfiller
    if c = '\x7d' then some ⟨entries, more, hmore⟩
    else
      match readPair .filler value (c :: more) with
      | none => none
      | some pair =>
        have hpair := Nat.lt_of_lt_of_le pair.shorter hmore
        match addPair pair.value.1 pair.value.2 entries with
        | none => none
        | some entries =>
          match hafter : skipFiller pair.rest with
          | some (',' :: next) =>
            have hnext := Nat.lt_of_lt_of_le (length_skipFiller hafter) (Nat.le_of_lt hpair)
            (readInlineTable value entries next).map fun others =>
              ⟨others.value, others.rest, Nat.lt_trans others.shorter hnext⟩
          | some ('\x7d' :: next) =>
            some ⟨entries, next,
              Nat.lt_of_lt_of_le (length_skipFiller hafter) (Nat.le_of_lt hpair)⟩
          | _ => none
termination_by text.length

/-- A value in which arrays and tables are nested at most `depth` deep. -/
def readValue : Nat → Reader Value
  | depth, '[' :: more =>
    match depth with
    | 0 => none
    | depth + 1 =>
      (readItems (readValue depth) more).map fun items =>
        ⟨.array false items.value, items.rest, Nat.lt_succ_of_lt items.shorter⟩
  | depth, '\x7b' :: more =>
    match depth with
    | 0 => none
    | depth + 1 =>
      (readInlineTable (readValue depth) [] more).map fun entries =>
        ⟨.table .inline entries.value, entries.rest, Nat.lt_succ_of_lt entries.shorter⟩
  | _, text => readScalar text

/-! ## Lines -/

inductive Line where
  | pair (key : Key) (value : Value)
  | header (key : Key)
  | arrayHeader (key : Key)

/-- The key of a header and its closing brackets, of which there are one or two. -/
def readHeaderKey (brackets : Nat) (text : List Char) : Option (Parsed Key text) :=
  match readKey (skipBlanks text) with
  | none => none
  | some key =>
    let closing := skipBlanks key.rest
    if closing.take brackets = List.replicate brackets ']' then
      some ⟨key.value, closing.drop brackets, by
        have := length_skipBlanks text
        have := length_skipBlanks key.rest
        have := key.shorter
        simp only [closing, List.length_drop]
        omega⟩
    else none

/-- A line that is not blank, without its end. -/
def readLine (text : List Char) : Option (Parsed Line text) :=
  match text with
  | '[' :: '[' :: more =>
    (readHeaderKey 2 more).map fun key =>
      ⟨.arrayHeader key.value, key.rest, Nat.lt_succ_of_lt (Nat.lt_succ_of_lt key.shorter)⟩
  | '[' :: more =>
    (readHeaderKey 1 more).map fun key =>
      ⟨.header key.value, key.rest, Nat.lt_succ_of_lt key.shorter⟩
  | text =>
    (readPair .blanks (readValue maxDepth) text).map fun pair =>
      ⟨.pair pair.value.1 pair.value.2, pair.rest, pair.shorter⟩

/-- The lines of a document that are not blank. -/
def readLines (text : List Char) : Option (List Line) :=
  match hfiller : skipFiller text with
  | none => none
  | some [] => some []
  | some (c :: more) =>
    have hmore := length_skipFiller hfiller
    match readLine (c :: more) with
    | none => none
    | some line =>
      match hend : skipLineEnd line.rest with
      | none => none
      | some next =>
        have : next.length < text.length :=
          Nat.lt_of_lt_of_le (Nat.lt_of_le_of_lt (length_skipLineEnd hend) line.shorter) hmore
        (readLines next).map fun lines => line.value :: lines
termination_by text.length

end Workspaces.Toml
