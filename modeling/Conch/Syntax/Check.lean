import Conch.Syntax.Scan

/-!
# The grammar of a command line

A line is empty, or one pipeline: commands joined by single bars.  A command is either a
simple command (one or more words and redirections, in any order) or a parenthesised
pipeline followed by redirections.  A redirection is one of `<`, `>`, `<<`, `>>`, blanks,
and a word; a word is one or more pieces, each a bare run or a quotation.

The check reads the line once from left to right and stops at the first place where the
line stops being the beginning of some line of the grammar.  It reports either the token
found there (`newline` at the end of the line) or a quotation that the line never closes,
at the offset of its opening quote.

Main definitions: `Syntax.check` and `SyntaxError.message`.
-/

namespace Conch.Syntax

/-- Where the check stopped: the input that remained there, and why. -/
inductive Stop where
  /-- No rule of the grammar accepts what starts here. -/
  | unexpected (rest : List Char)
  /-- A quotation opened by `quote` here runs to the end of the line. -/
  | unclosed (quote : Char) (rest : List Char)
  deriving DecidableEq, Repr

/-- What remains after a step that reads nothing or more. -/
abbrev Rest (cs : List Char) := {r : List Char // r.length ≤ cs.length}

/-- What remains after a step that reads at least one character. -/
abbrev Shorter (cs : List Char) := {r : List Char // r.length < cs.length}

/-- The input after the blanks at its head. -/
def skipBlanks (cs : List Char) : Rest cs :=
  ⟨cs.dropWhile isBlank, length_dropWhile_le _ cs⟩

/-- Whether a character can start a piece of a word. -/
def startsPiece (c : Char) : Bool :=
  c == '\'' || c == '"' || !isSpecial c

/-! ## Words -/

/-- The rest of a quotation opened by `q` whose body starts at `rest`. -/
def closeQuotation (q : Char) (rest : List Char) : Except Stop (Rest rest) :=
  match h : rest.dropWhile (· != q) with
  | [] => .error (.unclosed q (q :: rest))
  | _ :: after =>
      .ok ⟨after, by
        have := length_dropWhile_le (· != q) rest
        rw [h] at this
        simp at this
        omega⟩

/-- The input after a bare run at the head of `rest`. -/
def skipBare (rest : List Char) : Rest rest :=
  ⟨rest.dropWhile (fun d => !isSpecial d), length_dropWhile_le _ rest⟩

/-- The pieces of a word, as many as follow each other. -/
def pieces (cs : List Char) : Except Stop (Rest cs) :=
  match cs with
  | [] => .ok ⟨[], Nat.le_refl _⟩
  | c :: rest =>
      if c == '\'' || c == '"' then
        match closeQuotation c rest with
        | .error e => .error e
        | .ok ⟨r, h⟩ =>
            match pieces r with
            | .error e => .error e
            | .ok ⟨r₁, h₁⟩ => .ok ⟨r₁, Nat.le_succ_of_le (Nat.le_trans h₁ h)⟩
      else if !isSpecial c then
        match skipBare rest with
        | ⟨r, h⟩ =>
            match pieces r with
            | .error e => .error e
            | .ok ⟨r₁, h₁⟩ => .ok ⟨r₁, Nat.le_succ_of_le (Nat.le_trans h₁ h)⟩
      else .ok ⟨c :: rest, Nat.le_refl _⟩
termination_by cs.length
decreasing_by
  all_goals exact Nat.lt_succ_of_le h

/-- A word: at least one piece. -/
def word (cs : List Char) : Except Stop (Shorter cs) :=
  match cs with
  | [] => .error (.unexpected [])
  | c :: rest =>
      if startsPiece c then
        if c == '\'' || c == '"' then
          match closeQuotation c rest with
          | .error e => .error e
          | .ok ⟨r, h⟩ =>
              match pieces r with
              | .error e => .error e
              | .ok ⟨r₁, h₁⟩ => .ok ⟨r₁, by simp only [List.length_cons]; omega⟩
        else
          match skipBare rest with
          | ⟨r, h⟩ =>
              match pieces r with
              | .error e => .error e
              | .ok ⟨r₁, h₁⟩ => .ok ⟨r₁, by simp only [List.length_cons]; omega⟩
      else .error (.unexpected (c :: rest))

/-- The input after a redirection operator at its head; `cs` starts with `<` or `>`. -/
def skipRedirectOperator (cs : List Char) : Rest cs :=
  match cs with
  | '<' :: '<' :: r => ⟨r, Nat.le_succ_of_le (Nat.le_succ r.length)⟩
  | '>' :: '>' :: r => ⟨r, Nat.le_succ_of_le (Nat.le_succ r.length)⟩
  | _ :: r => ⟨r, Nat.le_succ r.length⟩
  | [] => ⟨[], Nat.le_refl _⟩

/-- A redirection: its operator, blanks, and a word. -/
def redirection (cs : List Char) : Except Stop (Shorter cs) :=
  match skipRedirectOperator cs with
  | ⟨r, h⟩ =>
      match skipBlanks r with
      | ⟨r₁, h₁⟩ =>
          match word r₁ with
          | .error e => .error e
          | .ok ⟨r₂, h₂⟩ => .ok ⟨r₂, by omega⟩

/-- Whether the input starts with a redirection operator. -/
def startsRedirection : List Char → Bool
  | '<' :: _ => true
  | '>' :: _ => true
  | _ => false

/-! ## Commands and pipelines -/

/-- The words and redirections of a simple command; `seen` counts those already read, and a
simple command needs at least one. -/
def simpleItems (seen : Nat) (cs : List Char) : Except Stop (Rest cs) :=
  match skipBlanks cs with
  | ⟨[], h⟩ => if seen == 0 then .error (.unexpected []) else .ok ⟨[], h⟩
  | ⟨c :: r, h⟩ =>
      if startsRedirection (c :: r) then
        match redirection (c :: r) with
        | .error e => .error e
        | .ok ⟨r₁, h₁⟩ =>
            match simpleItems (seen + 1) r₁ with
            | .error e => .error e
            | .ok ⟨r₂, h₂⟩ => .ok ⟨r₂, by omega⟩
      else if startsPiece c then
        match word (c :: r) with
        | .error e => .error e
        | .ok ⟨r₁, h₁⟩ =>
            match simpleItems (seen + 1) r₁ with
            | .error e => .error e
            | .ok ⟨r₂, h₂⟩ => .ok ⟨r₂, by omega⟩
      else if seen == 0 then .error (.unexpected (c :: r))
      else .ok ⟨c :: r, h⟩
termination_by cs.length
decreasing_by
  all_goals omega

/-- The redirections after a parenthesised pipeline. -/
def groupRedirections (cs : List Char) : Except Stop (Rest cs) :=
  match skipBlanks cs with
  | ⟨r, h⟩ =>
      if startsRedirection r then
        match redirection r with
        | .error e => .error e
        | .ok ⟨r₁, h₁⟩ =>
            match groupRedirections r₁ with
            | .error e => .error e
            | .ok ⟨r₂, h₂⟩ => .ok ⟨r₂, by omega⟩
      else .ok ⟨r, h⟩
termination_by cs.length
decreasing_by omega

/-- The input after a single bar at its head; a doubled bar is no bar here. -/
def afterBar : List Char → Option (List Char)
  | '|' :: '|' :: _ => none
  | '|' :: after => some after
  | _ => none

theorem length_of_afterBar {cs r : List Char} (h : afterBar cs = some r) :
    r.length < cs.length := by
  unfold afterBar at h
  split at h <;> simp_all

/-- The input after the character `c` at its head. -/
def afterChar (c : Char) : List Char → Option (List Char)
  | d :: after => if d == c then some after else none
  | [] => none

theorem length_of_afterChar {c : Char} {cs r : List Char} (h : afterChar c cs = some r) :
    r.length < cs.length := by
  unfold afterChar at h
  split at h
  · split at h <;> simp_all
  · simp at h

mutual

/-- A pipeline: commands joined by single bars. -/
def pipeline (cs : List Char) : Except Stop (Rest cs) :=
  match command cs with
  | .error e => .error e
  | .ok ⟨r, h⟩ =>
      match pipelineTail r with
      | .error e => .error e
      | .ok ⟨r₁, h₁⟩ => .ok ⟨r₁, by omega⟩
termination_by (cs.length, 2)
decreasing_by
  · exact Prod.Lex.right _ (by omega)
  · rcases Nat.lt_or_eq_of_le h with hlt | heq
    · exact Prod.Lex.left _ _ hlt
    · rw [heq]; exact Prod.Lex.right _ (by omega)

/-- The bars and commands that continue a pipeline. -/
def pipelineTail (cs : List Char) : Except Stop (Rest cs) :=
  match skipBlanks cs with
  | ⟨r, h⟩ =>
      match hb : afterBar r with
      | some after =>
          match command after with
          | .error e => .error e
          | .ok ⟨r₁, h₁⟩ =>
              match pipelineTail r₁ with
              | .error e => .error e
              | .ok ⟨r₂, h₂⟩ => .ok ⟨r₂, by have := length_of_afterBar hb; omega⟩
      | none => .ok ⟨r, h⟩
termination_by (cs.length, 0)
decreasing_by
  all_goals (have hlt := length_of_afterBar hb; exact Prod.Lex.left _ _ (by omega))

/-- A command: a simple command, or a parenthesised pipeline and its redirections. -/
def command (cs : List Char) : Except Stop (Rest cs) :=
  match skipBlanks cs with
  | ⟨r, h⟩ =>
      match ho : afterChar '(' r with
      | some inner =>
          match pipeline inner with
          | .error e => .error e
          | .ok ⟨r₁, h₁⟩ =>
              match skipBlanks r₁ with
              | ⟨r₂, h₂⟩ =>
                  match hc : afterChar ')' r₂ with
                  | some after =>
                      match groupRedirections after with
                      | .error e => .error e
                      | .ok ⟨r₃, h₃⟩ =>
                          .ok ⟨r₃, by
                            have := length_of_afterChar ho
                            have := length_of_afterChar hc
                            omega⟩
                  | none => .error (.unexpected r₂)
      | none =>
          match simpleItems 0 r with
          | .error e => .error e
          | .ok ⟨r₁, h₁⟩ => .ok ⟨r₁, by omega⟩
termination_by (cs.length, 1)
decreasing_by
  all_goals (have hlt := length_of_afterChar ho; exact Prod.Lex.left _ _ (by omega))

end

/-- A whole line: blanks, then nothing or one pipeline, then blanks to the end. -/
def line (cs : List Char) : Except Stop Unit :=
  match skipBlanks cs with
  | ⟨[], _⟩ => .ok ()
  | ⟨r, _⟩ =>
      match pipeline r with
      | .error e => .error e
      | .ok ⟨r₁, _⟩ =>
          match skipBlanks r₁ with
          | ⟨[], _⟩ => .ok ()
          | ⟨r₂, _⟩ => .error (.unexpected r₂)

/-! ## Reporting -/

/-- A line outside the grammar: the token where it stopped, or a quotation it never
closes.  Offsets count bytes of the line. -/
inductive SyntaxError where
  | unexpectedToken (token : String) (offset : Nat)
  | unterminatedQuote (quote : Char) (offset : Nat)
  deriving DecidableEq, Repr

/-- The offset a syntax error is reported at. -/
def SyntaxError.offset : SyntaxError → Nat
  | .unexpectedToken _ n => n
  | .unterminatedQuote _ n => n

/-- The message that reports a syntax error. -/
def SyntaxError.message : SyntaxError → String
  | .unexpectedToken t _ => "syntax error near unexpected token `" ++ t ++ "'"
  | .unterminatedQuote q _ => "unexpected EOF while looking for matching `" ++ q.toString ++ "'"

/-- The token to report where the check stopped: `newline` at the end of the line, a
doubled operator or `||` whole, a special character alone, or the bare run there. -/
def offendingToken : List Char → String
  | [] => "newline"
  | '<' :: '<' :: _ => "<<"
  | '>' :: '>' :: _ => ">>"
  | '|' :: '|' :: _ => "||"
  | c :: rest =>
      if isSpecial c then String.ofList [c]
      else String.ofList (c :: rest.takeWhile (fun d => !isSpecial d))

/-- Checks a line against the grammar. -/
def check (s : String) : Except SyntaxError Unit :=
  let total := byteLength s.toList
  match line s.toList with
  | .ok () => .ok ()
  | .error (.unexpected rest) =>
      .error (.unexpectedToken (offendingToken rest) (total - byteLength rest))
  | .error (.unclosed q rest) => .error (.unterminatedQuote q (total - byteLength rest))

end Conch.Syntax
