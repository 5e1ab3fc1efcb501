import Conch.Script.Syntax

/-!
# Reading scripts of the system shell

The reader turns the text of a script into commands, one complete command line at a time.
It reads tokens and parses them in the same pass, because whether a word is a reserved word,
an alias, or a name depends on where the parser stands.

*Characters.*  A backslash before a newline joins the two lines, except between single
quotes.  Blanks separate tokens, and `#` at the start of a token begins a comment.

*Words.*  A word runs to the next blank or operator character.  Single quotes keep every
character; double quotes keep all but `$`, the backquote and the backslash, and the backslash
there quotes only `$`, backquote, `"`, backslash.  A `$` starts a parameter (`$name`, `$1`,
`$#` and the other special parameters, or `${...}` with its operators), a command
substitution `$(...)` or an arithmetic expansion `$((...))`; a backquote starts the older
command substitution, whose text is read up to the closing backquote and then parsed.  A word
of at most one unquoted digit right before `<` or `>` is the descriptor of a redirection.

*Commands.*  The grammar is parsed by recursive descent, as lists of and-or lists of
pipelines of commands.  A here-document's text is read when the line that asks for it ends;
its end marker has its quotes removed, and any quote in it keeps the text from being
expanded.  Aliases are replaced where a command name may stand.

An error names the token the reader did not expect, and what it expected instead when only
one token would do, or says what is missing ("Unterminated quoted string", "Missing '}'").
Every loop of the reader spends fuel, which is sized from the text, so reading always ends.

Main definitions: `Reader`, `Reader.nextCommand` and `Reader.readAll`.
-/

namespace Conch.Script

/-- Why a script could not be read: the message after "Syntax error: ", and the line. -/
structure SyntaxError where
  message : String
  line : Nat
  deriving Repr

/-- What the reader looks for in the next token. -/
structure Check where
  /-- Reserved words are recognised. -/
  keywords : Bool := false
  /-- Newlines before the token are skipped. -/
  newlines : Bool := false
  /-- Aliases are replaced. -/
  aliases : Bool := false
  /-- The token is a here-document's end marker, in which `$` and backquote are literal. -/
  mark : Bool := false

/-- A here-document asked for on the line being read, whose text comes after it. -/
structure PendingDoc where
  doc : Nat
  mark : String
  strip : Bool
  expand : Bool

/-- The state of the reader. -/
structure Reader where
  /-- The characters left to read. -/
  input : List Char
  /-- The number of the line being read. -/
  line : Nat := 1
  /-- A token given back, to be read again. -/
  pushed : Option Tok := none
  /-- The last token read. -/
  last : Tok := .eof
  /-- The here-documents whose text is still to be read. -/
  pending : List PendingDoc := []
  /-- The texts of the here-documents read, by number. -/
  docs : List (Nat × HereDoc) := []
  /-- The number the next here-document gets. -/
  nextDoc : Nat := 0
  /-- The aliases. -/
  aliases : List (String × String) := []
  /-- The aliases whose text is being read, each with the length of the input below which
  its text is used up. -/
  active : List (String × Nat) := []

/-- A computation of the reader. -/
abbrev ReadM := StateT Reader (Except SyntaxError)

/-- Where a word's characters are read, which decides what they mean. -/
inductive Ctx where
  /-- An unquoted word; `mark` when it is a here-document's end marker. -/
  | bare (mark : Bool)
  /-- Between double quotes. -/
  | dquote (mark : Bool)
  /-- The word of a `${...}` expansion, in quotes or not, and whether it is a pattern. -/
  | brace (quoted pattern : Bool)
  /-- An arithmetic expansion, inside `depth` open parentheses. -/
  | arith (depth : Nat)
  /-- The text of an expanded here-document, up to its end marker. -/
  | hereText (mark : String) (strip : Bool)

namespace Ctx

/-- Whether the characters read here are quoted. -/
def quoted : Ctx → Bool
  | .bare _ => false
  | .dquote _ => true
  | .brace q p => q && !p
  | .arith _ => true
  | .hereText _ _ => true

/-- Whether a backslash here quotes only `$`, backquote, backslash and `"`. -/
def weakBackslash : Ctx → Bool := quoted

/-- Whether quote characters here begin quoted text. -/
def quotesOpen : Ctx → Bool
  | .bare _ => true
  | .brace q p => !q || p
  | _ => false

/-- Whether this is a here-document's end marker, where expansions are not made. -/
def isMark : Ctx → Bool
  | .bare m => m
  | .dquote m => m
  | _ => false

/-- Whether this is the text of a here-document. -/
def isHereText : Ctx → Bool
  | .hereText _ _ => true
  | _ => false

/-- Whether this is the word of a `${...}` expansion. -/
def isBrace : Ctx → Bool
  | .brace _ _ => true
  | _ => false

end Ctx

/-- Whether a character ends an unquoted word. -/
def isMeta (c : Char) : Bool :=
  c == ' ' || c == '\t' || c == '\n' || c == ';' || c == '&' || c == '|' || c == '<' ||
  c == '>' || c == '(' || c == ')'

/-- Whether a character names a special parameter. -/
def isSpecialParam (c : Char) : Bool :=
  c == '@' || c == '*' || c == '#' || c == '?' || c == '-' || c == '$' || c == '!' ||
  ('0' ≤ c && c ≤ '9')

/-- Adds a piece to a word, joining it to a last literal piece quoted alike. -/
def addPiece (w : Word) (p : Piece) : Word :=
  match w.getLast?, p with
  | some (.text a q), .text b q' => if q == q' then w.dropLast ++ [.text (a ++ b) q] else w ++ [p]
  | _, _ => w ++ [p]

/-- Adds one literal character to a word. -/
def addChar (w : Word) (c : Char) (q : Bool) : Word := addPiece w (.text (String.singleton c) q)

/-- The text of a word read as a single unquoted literal, if it is one. -/
def plainText : Word → Option String
  | [.text s false] => some s
  | _ => none

/-- Drops the joined line ends at the start of a text: the rest and how many were dropped. -/
def dropJoins : List Char → Nat → List Char × Nat
  | '\\' :: '\n' :: rest, n => dropJoins rest (n + 1)
  | cs, n => (cs, n)

/-- The special built-in commands, which no function may be named after. -/
def specialBuiltins : List String :=
  [".", ":", "break", "continue", "eval", "exec", "exit", "export", "local", "readonly",
   "return", "set", "shift", "times", "trap", "unset"]

namespace Reader

/-- Fails with a message, at the line being read. -/
def fail {α : Type} (msg : String) : ReadM α := do
  throw ⟨msg, (← get).line⟩

/-- Fails on the last token read, naming the one expected if there is one. -/
def unexpected {α : Type} (expecting : Option Tok) : ReadM α := do
  let s ← get
  let tail := match expecting with
    | some t => " (expecting " ++ t.name ++ ")"
    | none => ""
  throw ⟨s.last.name ++ " unexpected" ++ tail, s.line⟩

/-- The failure when the reader's fuel runs out, which a text it was sized for never meets. -/
def outOfFuel {α : Type} : ReadM α := fail "end of file unexpected"

/-- Reads the next character as it is. -/
def rawNext : ReadM (Option Char) := do
  let s ← get
  match s.input with
  | [] => return none
  | c :: rest =>
      set { s with input := rest, line := if c == '\n' then s.line + 1 else s.line }
      return some c

/-- Gives a character back. -/
def unget : Option Char → ReadM Unit
  | none => pure ()
  | some c => modify fun s =>
      { s with input := c :: s.input, line := if c == '\n' then s.line - 1 else s.line }

/-- Reads the next character after any joined line ends. -/
def nextJoined : ReadM (Option Char) := do
  modify fun s =>
    let (cs, k) := dropJoins s.input 0
    { s with input := cs, line := s.line + k }
  rawNext

/-- Gives the last token read back, to be read again. -/
def pushBack : ReadM Unit := modify fun s => { s with pushed := some s.last }

/-- Records the last token read. -/
def setLast (t : Tok) : ReadM Tok := do
  modify fun s => { s with last := t }
  return t

/-- Reads the characters of a name after its first one. -/
def nameRest : Nat → String → ReadM String
  | 0, acc => pure acc
  | f + 1, acc => do
      match ← nextJoined with
      | some c => if isNameChar c then nameRest f (acc.push c) else do unget (some c); pure acc
      | none => pure acc

/-- Reads the digits after a first one. -/
def digitsRest : Nat → String → ReadM String
  | 0, acc => pure acc
  | f + 1, acc => do
      match ← nextJoined with
      | some c => if isDigitChar c then digitsRest f (acc.push c) else do unget (some c); pure acc
      | none => pure acc

/-- Reads text between single quotes, the opening one read. -/
def singleQuoted : Nat → String → ReadM String
  | 0, _ => outOfFuel
  | f + 1, acc => do
      match ← rawNext with
      | none => fail "Unterminated quoted string"
      | some '\'' => pure acc
      | some c => singleQuoted f (acc.push c)

/-- Whether a here-document's end marker stands at the start of the input, as a whole line:
if so it is read with its newline.  Leading tabs are dropped first when `strip`. -/
def hereEnds (mark : String) (strip : Bool) : ReadM Bool := do
  let s ← get
  let cs := if strip then s.input.dropWhile (· == '\t') else s.input
  let m := mark.toList
  let rest := cs.drop m.length
  if cs.take m.length == m && (rest.isEmpty || rest.head? == some '\n') then
    set { s with input := rest.drop 1, line := if rest.isEmpty then s.line else s.line + 1 }
    return true
  else
    set { s with input := cs }
    return false

/-- Reads the text of a here-document whose text is not expanded, up to its end marker. -/
def rawHereText (mark : String) (strip : Bool) : Nat → String → ReadM String
  | 0, acc => pure acc
  | f + 1, acc => do
      if ← hereEnds mark strip then return acc
      let s ← get
      if s.input.isEmpty then return acc
      let lineChars := s.input.takeWhile (· != '\n')
      let rest := s.input.dropWhile (· != '\n')
      match rest with
      | '\n' :: more =>
          set { s with input := more, line := s.line + 1 }
          rawHereText mark strip f (acc ++ String.ofList lineChars ++ "\n")
      | _ =>
          set { s with input := rest }
          pure (acc ++ String.ofList lineChars)

/-- The operator of a redirection, its first character read. -/
def redirSign (first : Char) : ReadM RedirSign := do
  if first == '>' then
    match ← nextJoined with
    | some '>' => return .file .append
    | some '|' => return .file .clobber
    | some '&' => return .dup true
    | c => do unget c; return .file .output
  else
    match ← nextJoined with
    | some '<' =>
        match ← nextJoined with
        | some '-' => return .here true
        | c => do unget c; return .here false
    | some '&' => return .dup false
    | some '>' => return .file .readWrite
    | c => do unget c; return .file .input

/-- Whether a word is an assignment: its name and the word of its value. -/
def assignmentOf : Word → Option (String × Word)
  | .text s false :: rest =>
      let cs := s.toList
      let name := cs.takeWhile (· != '=')
      if name.length < cs.length && isName (String.ofList name) then
        let value := String.ofList (cs.drop (name.length + 1))
        some (String.ofList name, if value.isEmpty then rest else .text value false :: rest)
      else none
  | _ => none

/-- The text of a here-document's end marker with its quotes removed, and whether any part
of it was quoted. -/
def markOf (w : Word) : String × Bool :=
  w.foldl (fun (acc : String × Bool) p => match p with
    | .text s q => (acc.1 ++ s, acc.2 || q)
    | _ => acc) ("", false)

mutual

/-- Reads the pieces of a word in a context, up to its end. -/
def readPieces : Nat → Ctx → Word → ReadM Word
  | 0, _, _ => outOfFuel
  | f + 1, ctx, acc => do
      match ← nextJoined with
      | none =>
          match ctx with
          | .bare _ | .hereText _ _ => pure acc
          | .dquote _ => fail "Unterminated quoted string"
          | .brace _ _ => fail "Missing '\x7d'"
          | .arith _ => fail "Missing '))'"
      | some c =>
          match ctx with
          | .bare _ =>
              if isMeta c then do unget (some c); pure acc
              else readCommon f ctx acc c
          | .dquote _ => if c == '"' then pure acc else readCommon f ctx acc c
          | .brace _ _ => if c == '}' then pure acc else readCommon f ctx acc c
          | .arith depth =>
              if c == '(' then readPieces f (.arith (depth + 1)) (addChar acc c true)
              else if c == ')' then
                if depth > 0 then readPieces f (.arith (depth - 1)) (addChar acc c true)
                else do
                  let c2 ← nextJoined
                  if c2 == some ')' then pure acc
                  else do
                    unget c2
                    readPieces f ctx (addChar acc c true)
              else readCommon f ctx acc c
          | .hereText mark strip =>
              if c == '\n' then do
                let acc := addChar acc c true
                if ← hereEnds mark strip then pure acc else readPieces f ctx acc
              else readCommon f ctx acc c

/-- Reads a character that means the same in most contexts, then goes on with the word. -/
def readCommon : Nat → Ctx → Word → Char → ReadM Word
  | 0, _, _, _ => outOfFuel
  | f + 1, ctx, acc, c => do
      let q := ctx.quoted
      if c == '\\' then
        match ← rawNext with
        | none => readPieces f ctx (addChar acc '\\' true)
        | some d =>
            if ctx.weakBackslash then
              if d == '\\' || d == '`' || d == '$' || (d == '"' && !ctx.isHereText) ||
                  (d == '}' && ctx.isBrace) then
                readPieces f ctx (addChar acc d true)
              else readPieces f ctx (addChar (addChar acc '\\' true) d true)
            else readPieces f ctx (addChar acc d true)
      else if c == '\'' && ctx.quotesOpen then do
        let s ← singleQuoted f ""
        readPieces f ctx (addPiece acc (.text s true))
      else if c == '"' && !ctx.isHereText then do
        let inner ← readPieces f (.dquote ctx.isMark) []
        let pieces := match inner with
          | [.param "@" .plain [] true] => inner
          | _ => .text "" true :: inner
        readPieces f ctx (pieces.foldl addPiece acc)
      else if c == '$' then do
        let ps ← readDollar f ctx
        readPieces f ctx (ps.foldl addPiece acc)
      else if c == '`' then
        if ctx.isMark then readPieces f ctx (addChar acc c true)
        else do
          let body ← backquoted f ctx ""
          readPieces f ctx (addPiece acc (.command body q))
      else readPieces f ctx (addChar acc c q)

/-- Reads what follows a `$`: a parameter, a substitution, or a literal `$`. -/
def readDollar : Nat → Ctx → ReadM Word
  | 0, _ => outOfFuel
  | f + 1, ctx => do
      let q := ctx.quoted
      let c ← nextJoined
      if ctx.isMark then do
        unget c
        return [.text "$" q]
      match c with
      | some '(' =>
          let c2 ← nextJoined
          if c2 == some '(' then do
            let e ← readPieces f (.arith 0) []
            return [.arith e q]
          else do
            unget c2
            let body ← list f 2
            let t ← readToken f {}
            match t with
            | .rparen => return [.command body q]
            | _ => unexpected (some .rparen)
      | some '{' => braced f ctx
      | some c =>
          if isNameStart c then do
            let name ← nameRest f (String.singleton c)
            return [.param name .plain [] q]
          else if isSpecialParam c then return [.param (String.singleton c) .plain [] q]
          else do
            unget (some c)
            return [.text "$" q]
      | none => return [.text "$" q]

/-- Reads a `${...}` expansion after its brace. -/
def braced : Nat → Ctx → ReadM Word
  | 0, _ => outOfFuel
  | f + 1, ctx => do
      let q := ctx.quoted
      let wordIn := fun (pattern : Bool) => readPieces f (.brace q pattern) []
      let c ← nextJoined
      -- The parameter's name, and whether it is asked for its length.
      let named : Option (String × Bool) ← match c with
        | some n =>
            if isNameStart n then do
              let s ← nameRest f (String.singleton n)
              pure (some (s, false))
            else if isDigitChar n then do
              let s ← digitsRest f (String.singleton n)
              pure (some (s, false))
            else if n == '}' then do
              unget c
              pure none
            else do
              let c2 ← nextJoined
              if n == '#' then
                match c2 with
                | some d =>
                    if isNameStart d then do
                      let s ← nameRest f (String.singleton d)
                      pure (some (s, true))
                    else if isDigitChar d then do
                      let s ← digitsRest f (String.singleton d)
                      pure (some (s, true))
                    else do
                      let c3 ← nextJoined
                      if d == '}' || c3 != some '}' then do
                        unget c3
                        unget c2
                        pure (some ("#", false))
                      else if isSpecialParam d then do
                        unget c3
                        pure (some (String.singleton d, true))
                      else do
                        unget c3
                        pure none
                | none => do
                    unget c2
                    pure (some ("#", false))
              else if isSpecialParam n then do
                unget c2
                pure (some (String.singleton n, false))
              else do
                unget c2
                pure none
        | none => pure none
      match named with
      | none => do
          let w ← wordIn false
          return [.param "" .malformed w q]
      | some (name, true) => do
          let c ← nextJoined
          if c == some '}' then return [.param name .length [] q]
          else do
            unget c
            let w ← wordIn false
            return [.param name .malformed w q]
      | some (name, false) => do
          let c ← nextJoined
          let withWord := fun (op : ParamOp) (pattern : Bool) => do
            let w ← wordIn pattern
            return [Piece.param name op w q]
          match c with
          | some '}' => return [.param name .plain [] q]
          | some ':' =>
              match ← nextJoined with
              | some '}' => return [.param name .plain [] q]
              | some '-' => withWord (.orDefault true) false
              | some '+' => withWord (.ifSet true) false
              | some '?' => withWord (.orFail true) false
              | some '=' => withWord (.orAssign true) false
              | _ => withWord .malformed false
          | some '-' => withWord (.orDefault false) false
          | some '+' => withWord (.ifSet false) false
          | some '?' => withWord (.orFail false) false
          | some '=' => withWord (.orAssign false) false
          | some '#' =>
              let c2 ← nextJoined
              if c2 == some '#' then withWord (.dropPrefix true) true
              else do
                unget c2
                withWord (.dropPrefix false) true
          | some '%' =>
              let c2 ← nextJoined
              if c2 == some '%' then withWord (.dropSuffix true) true
              else do
                unget c2
                withWord (.dropSuffix false) true
          | _ => withWord .malformed false

/-- Reads an old-style command substitution up to its closing backquote, and parses it. -/
def backquoted : Nat → Ctx → String → ReadM (Option Cmd)
  | 0, _, _ => outOfFuel
  | f + 1, ctx, acc => do
      match ← nextJoined with
      | none => fail "EOF in backquote substitution"
      | some '`' => do
          let s ← get
          let sub : Reader :=
            { input := acc.toList, line := s.line, docs := s.docs, nextDoc := s.nextDoc,
              aliases := s.aliases }
          match (list f 2).run sub with
          | .ok (body, after) =>
              set { s with docs := after.docs, nextDoc := after.nextDoc }
              return body
          | .error e => throw e
      | some '\\' =>
          match ← rawNext with
          | none => fail "EOF in backquote substitution"
          | some d =>
              if d == '\\' || d == '`' || d == '$' || (ctx.weakBackslash && d == '"') then
                backquoted f ctx (acc.push d)
              else backquoted f ctx ((acc.push '\\').push d)
      | some c => backquoted f ctx (acc.push c)

/-- Reads one token as it stands, or the token given back. -/
def lexToken : Nat → Check → ReadM Tok
  | 0, _ => outOfFuel
  | f + 1, chk => do
      let s ← get
      match s.pushed with
      | some t => do
          set { s with pushed := none }
          return t
      | none =>
          match ← nextJoined with
          | some ' ' | some '\t' => lexToken f chk
          | some '#' => do
              modify fun s => { s with input := s.input.dropWhile (· != '\n') }
              lexToken f chk
          | some '\n' => setLast .newline
          | none => setLast .eof
          | some '&' =>
              match ← nextJoined with
              | some '&' => setLast .andIf
              | c => do unget c; setLast .amp
          | some '|' =>
              match ← nextJoined with
              | some '|' => setLast .orIf
              | c => do unget c; setLast .pipe
          | some ';' =>
              match ← nextJoined with
              | some ';' => setLast .dsemi
              | c => do unget c; setLast .semi
          | some '(' => setLast .lparen
          | some ')' => setLast .rparen
          | some c => do
              unget (some c)
              let w ← readPieces f (.bare chk.mark) []
              let c ← nextJoined
              let fd : Option (Option Nat) := match w with
                | [] => some none
                | [.text d false] =>
                    match d.toList with
                    | [k] => if isDigitChar k then some (some (k.toNat - 48)) else none
                    | _ => none
                | _ => none
              match c, fd with
              | some r, some fd =>
                  if r == '<' || r == '>' then do
                    let sign ← redirSign r
                    setLast (.redir fd sign)
                  else do
                    unget c
                    setLast (.word w (plainText w))
              | _, _ => do
                  unget c
                  setLast (.word w (plainText w))

/-- Reads the next token as the parser needs it: newlines skipped, reserved words recognised
and aliases replaced, as `chk` asks. -/
def readToken : Nat → Check → ReadM Tok
  | 0, _ => outOfFuel
  | f + 1, chk => do
      let t ← lexToken f chk
      match t with
      | .newline =>
          if chk.newlines then do
            readDocs f
            readToken f chk
          else pure t
      | .word _ (some text) =>
          match (if chk.keywords then Keyword.ofText? text else none) with
          | some k => setLast (.keyword k)
          | none =>
              let s ← get
              let busy := s.active.any (fun (n, len) => n == text && s.input.length > len)
              match (if chk.aliases && !busy then s.aliases.lookup text else none) with
              | some value => do
                  set { s with active := (text, s.input.length) :: s.active,
                               input := value.toList ++ s.input }
                  readToken f chk
              | none => pure t
      | _ => pure t

/-- Reads the texts of the here-documents asked for on the line just ended. -/
def readDocs : Nat → ReadM Unit
  | 0 => outOfFuel
  | f + 1 => do
      let s ← get
      set { s with pending := [] }
      let _ ← s.pending.mapM fun p => do
        let body ← if p.expand then readPieces f (.hereText p.mark p.strip) []
          else do
            let text ← rawHereText p.mark p.strip f ""
            pure [Piece.text text true]
        modify fun s => { s with docs := s.docs ++ [(p.doc, ⟨p.expand, body⟩)] }

/-- Reads a list of commands.  `nl` is 1 at the top, where a newline ends the list; 0 for the
body of a compound command, which must hold a command; 2 where the list may be empty. -/
def list : Nat → Nat → ReadM (Option Cmd)
  | 0, _ => outOfFuel
  | f + 1, nl => listMore f (nl % 2 == 0) nl none

/-- Reads the rest of a list after `acc`. -/
def listMore : Nat → Bool → Nat → Option Cmd → ReadM (Option Cmd)
  | 0, _, _, _ => outOfFuel
  | f + 1, skipNl, nl, acc => do
      let t ← readToken f { newlines := skipNl, keywords := true, aliases := true }
      match t with
      | .newline => do
          readDocs f
          pure acc
      | .eof => do
          readDocs f
          modify fun s => { s with pushed := some .eof, last := .eof }
          pure acc
      | _ => do
          pushBack
          if nl == 2 && t.endsList then pure acc
          else do
            let n2 ← andOr f {}
            let t ← readToken f {}
            let n2 := match t with
              | .amp => Cmd.background n2
              | _ => n2
            let acc := some (match acc with
              | some a => Cmd.seq a n2
              | none => n2)
            match t with
            | .eof => do
                readDocs f
                modify fun s => { s with pushed := some .eof, last := .eof }
                pure acc
            | .newline => do
                pushBack
                listMore f skipNl (nl ||| 2) acc
            | .amp | .semi => listMore f skipNl (nl ||| 2) acc
            | _ =>
                if !skipNl then unexpected none
                else do
                  pushBack
                  pure acc

/-- Reads an and-or list. -/
def andOr : Nat → Check → ReadM Cmd
  | 0, _ => outOfFuel
  | f + 1, chk => do
      let n1 ← pipeline f chk
      andOrMore f n1

/-- Reads the rest of an and-or list after `n1`. -/
def andOrMore : Nat → Cmd → ReadM Cmd
  | 0, _ => outOfFuel
  | f + 1, n1 => do
      match ← readToken f {} with
      | .andIf => do
          let n2 ← pipeline f { newlines := true, keywords := true, aliases := true }
          andOrMore f (.andThen n1 n2)
      | .orIf => do
          let n2 ← pipeline f { newlines := true, keywords := true, aliases := true }
          andOrMore f (.orElse n1 n2)
      | _ => do
          pushBack
          pure n1

/-- Reads a pipeline, with its `!`. -/
def pipeline : Nat → Check → ReadM Cmd
  | 0, _ => outOfFuel
  | f + 1, chk => do
      let t ← readToken f chk
      let (negated, cchk) ← match t with
        | .keyword .bang => pure (true, ({ keywords := true, aliases := true } : Check))
        | _ => do
            pushBack
            pure (false, ({} : Check))
      let n1 ← command f cchk
      let stages ← pipeRest f [n1]
      let body := match stages with
        | [one] => one
        | more => Cmd.pipe more
      pure (if negated then .negate body else body)

/-- Reads the further stages of a pipeline after `acc`. -/
def pipeRest : Nat → List Cmd → ReadM (List Cmd)
  | 0, _ => outOfFuel
  | f + 1, acc => do
      match ← readToken f {} with
      | .pipe => do
          let c ← command f { newlines := true, keywords := true, aliases := true }
          pipeRest f (acc ++ [c])
      | _ => do
          pushBack
          pure acc

/-- Reads a command's trailing redirections. -/
def redirTail : Nat → List Redir → ReadM (List Redir)
  | 0, _ => outOfFuel
  | f + 1, acc => do
      match ← readToken f { keywords := true, aliases := true } with
      | .redir fd sign => do
          let r ← redirTarget f fd sign
          redirTail f (acc ++ [r])
      | _ => do
          pushBack
          pure acc

/-- Reads the target of a redirection. -/
def redirTarget : Nat → Option Nat → RedirSign → ReadM Redir
  | 0, _, _ => outOfFuel
  | f + 1, fd, sign => do
      let isHere := match sign with
        | .here _ => true
        | _ => false
      match ← readToken f { mark := isHere } with
      | .word w _ =>
          match sign with
          | .file op =>
              pure (.file (fd.getD (if op == .input || op == .readWrite then 0 else 1)) op w)
          | .dup output => pure (.dup (fd.getD (if output then 1 else 0)) output w)
          | .here strip => do
              let (mark, quoted) := markOf w
              let s ← get
              set { s with pending := s.pending ++ [({ doc := s.nextDoc, mark, strip, expand := !quoted } : PendingDoc)],
                           nextDoc := s.nextDoc + 1 }
              pure (.here (fd.getD 0) s.nextDoc)
      | _ => unexpected none

/-- Reads a command. -/
def command : Nat → Check → ReadM Cmd
  | 0, _ => outOfFuel
  | f + 1, chk => do
      let line := (← get).line
      let t ← readToken f chk
      let wrap := fun (body : Cmd) => do
        let rs ← redirTail f []
        pure (if rs.isEmpty then body else Cmd.redirected line body rs)
      let close := fun (k : Keyword) (body : Cmd) => do
        match ← readToken f {} with
        | .keyword k' => if k' == k then wrap body else unexpected (some (.keyword k))
        | _ => unexpected (some (.keyword k))
      match t with
      | .keyword .ifKw => do
          let cond ← body f
          expectKeyword f .thenKw
          let thenPart ← body f
          let rest ← elseParts f
          close .fiKw (.ifThen cond thenPart rest)
      | .keyword .whileKw => do
          let cond ← body f
          expectKeyword f .doKw
          let b ← body f
          close .doneKw (.loop false cond b)
      | .keyword .untilKw => do
          let cond ← body f
          expectKeyword f .doKw
          let b ← body f
          close .doneKw (.loop true cond b)
      | .keyword .forKw => do
          let name ← match ← readToken f {} with
            | .word _ (some n) => if isName n then pure n else fail "Bad for loop variable"
            | _ => fail "Bad for loop variable"
          let items ← match ← readToken f { newlines := true, keywords := true, aliases := true } with
            | .keyword .inKw => do
                let ws ← forWords f []
                match (← get).last with
                | .newline | .semi => pure ws
                | _ => unexpected none
            | t => do
                match t with
                | .semi => pure ()
                | _ => pushBack
                pure [[Piece.param "@" .plain [] true]]
          match ← readToken f { newlines := true, keywords := true, aliases := true } with
          | .keyword .doKw => pure ()
          | _ => unexpected (some (.keyword .doKw))
          let b ← body f
          close .doneKw (.forIn line name items b)
      | .keyword .caseKw => do
          let subject ← match ← readToken f {} with
            | .word w _ => pure w
            | _ => unexpected (some (.word [] none))
          match ← readToken f { newlines := true, keywords := true, aliases := true } with
          | .keyword .inKw => pure ()
          | _ => unexpected (some (.keyword .inKw))
          let first ← readToken f { newlines := true, keywords := true }
          let arms ← caseArms f first []
          wrap (.caseOf line subject arms)
      | .lparen => do
          let b ← body f
          match ← readToken f {} with
          | .rparen => do
              let rs ← redirTail f []
              pure (.subshell line b rs)
          | _ => unexpected (some .rparen)
      | .keyword .openBrace => do
          let b ← body f
          close .closeBrace b
      | .word _ _ | .redir _ _ => do
          pushBack
          simpleCommand f
      | _ => unexpected none

/-- Reads the body of a compound command.  It holds a command unless the text ends first,
and then the token that must follow it is missing anyway. -/
def body : Nat → ReadM Cmd
  | 0 => outOfFuel
  | f + 1 => do
      match ← list f 0 with
      | some c => pure c
      | none => pure (.pipe [])

/-- Reads a reserved word that must come next. -/
def expectKeyword : Nat → Keyword → ReadM Unit
  | 0, _ => outOfFuel
  | f + 1, k => do
      match ← readToken f {} with
      | .keyword k' => if k' == k then pure () else unexpected (some (.keyword k))
      | _ => unexpected (some (.keyword k))

/-- Reads the `elif` and `else` parts of an `if`. -/
def elseParts : Nat → ReadM (Option Cmd)
  | 0 => outOfFuel
  | f + 1 => do
      match ← readToken f {} with
      | .keyword .elifKw => do
          let cond ← body f
          expectKeyword f .thenKw
          let b ← body f
          let rest ← elseParts f
          pure (some (.ifThen cond b rest))
      | .keyword .elseKw => do
          let b ← body f
          pure (some b)
      | _ => do
          pushBack
          pure none

/-- Reads the words of a `for` list. -/
def forWords : Nat → List Word → ReadM (List Word)
  | 0, _ => outOfFuel
  | f + 1, acc => do
      match ← readToken f {} with
      | .word w _ => forWords f (acc ++ [w])
      | _ => pure acc

/-- Reads the arms of a `case`, the token `t` read. -/
def caseArms : Nat → Tok → List (List Word × Option Cmd) → ReadM (List (List Word × Option Cmd))
  | 0, _, _ => outOfFuel
  | f + 1, t, acc => do
      match t with
      | .keyword .esacKw => pure acc
      | _ => do
          let t ← match t with
            | .lparen => readToken f {}
            | _ => pure t
          let pats ← patterns f t []
          match (← get).last with
          | .rparen => pure ()
          | _ => unexpected (some .rparen)
          let b ← list f 2
          let acc := acc ++ [(pats, b)]
          match ← readToken f { newlines := true, keywords := true } with
          | .keyword .esacKw => pure acc
          | .dsemi => do
              let t ← readToken f { newlines := true, keywords := true }
              caseArms f t acc
          | _ => unexpected (some .dsemi)

/-- Reads the patterns of a `case` arm, the first token `t` read. -/
def patterns : Nat → Tok → List Word → ReadM (List Word)
  | 0, _, _ => outOfFuel
  | f + 1, t, acc => do
      let p : Word := match t with
        | .word w _ => w
        | .keyword k => [.text k.text false]
        | _ => []
      match ← readToken f {} with
      | .pipe => do
          let t ← readToken f {}
          patterns f t (acc ++ [p])
      | _ => pure (acc ++ [p])

/-- Reads a simple command, or a function definition. -/
def simpleCommand : Nat → ReadM Cmd
  | 0 => outOfFuel
  | f + 1 => do
      let line := (← get).line
      simpleMore f line true [] [] []

/-- Reads the rest of a simple command. -/
def simpleMore : Nat → Nat → Bool → List (String × Word) → List Word → List Redir → ReadM Cmd
  | 0, _, _, _, _, _ => outOfFuel
  | f + 1, line, early, assigns, args, redirs => do
      match ← readToken f { aliases := early } with
      | .word w _ =>
          match (if early then assignmentOf w else none) with
          | some a => simpleMore f line early (assigns ++ [a]) args redirs
          | none => simpleMore f line false assigns (args ++ [w]) redirs
      | .redir fd sign => do
          let r ← redirTarget f fd sign
          simpleMore f line early assigns args (redirs ++ [r])
      | .lparen =>
          match args, assigns, redirs with
          | [w], [], [] => do
              match ← readToken f {} with
              | .rparen => pure ()
              | _ => unexpected (some .rparen)
              let name := (plainText w).getD ""
              if !isName name || specialBuiltins.contains name then fail "Bad function name"
              let fline := (← get).line
              let b ← command f { newlines := true, keywords := true, aliases := true }
              pure (.defun fline name b)
          | _, _, _ => do
              pushBack
              pure (.simple line assigns args redirs)
      | _ => do
          pushBack
          pure (.simple line assigns args redirs)

end

/-- The fuel for reading a text: enough for any nesting and any loop over it. -/
def fuelFor (r : Reader) : Nat :=
  8 * (r.input.length + r.aliases.foldl (fun n a => n + a.2.length) 0 + 64)

/-- Reads the next command line: `none` at the end of the text, else the line's commands
(none for an empty line). -/
def nextCommand : ReadM (Option (Option Cmd)) := do
  let r ← get
  let c ← list (fuelFor r) 1
  let s ← get
  match c, s.pushed with
  | none, some .eof => pure none
  | _, _ => pure (some c)

end Reader

end Conch.Script
