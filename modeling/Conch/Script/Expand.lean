import Conch.Script.Interp
import Conch.Script.Arith
import Conch.Script.Glob

/-!
# Word expansion in the system shell

A word is expanded in steps.  A leading unquoted `~` (and, in an assignment, one after each
unquoted `:`) becomes a home directory.  Parameters, command substitutions and arithmetic
expansions are replaced by their values.  Where a command's arguments are made, the values of
unquoted expansions are then split into fields at the characters of `IFS`, and each field with
an unquoted `*`, `?` or `[` is replaced by the file names it matches.  Quotes are removed last.

*Splitting.*  Blanks, tabs and newlines in `IFS` separate fields and never make empty ones;
each other character of `IFS` ends a field, which may be empty, and takes the blanks around
it.  Only octets that came from an unquoted expansion split; literal text and quoted text
never do.  A word that leaves no octet and had no quotes leaves no field at all.

*Parameters.*  `"$@"` gives one field per positional parameter; `$*` and `$@` elsewhere join
them with the first character of `IFS`.  The operators of `${...}` test whether the parameter
is set (or, with a colon, set and not empty), and use, assign or complain with their word;
`#` and `%` remove the shortest (doubled: longest) prefix or suffix matching a pattern.

A command substitution runs in a copy of the shell, given by the evaluator, and its output
loses its final newlines.  An arithmetic expansion's text is expanded first and then
evaluated; its assignments are made to the shell's variables.

Main definitions: `Seg`, `expandFields`, `expandText` and `expandPattern`.
-/

namespace Conch.Script

/-- A part of an expanded word, before it is split into fields. -/
inductive Seg where
  /-- Octets: quoted ones stay literal; `split` ones came from an unquoted expansion. -/
  | chars (s : Octets) (quoted : Bool) (split : Bool)
  /-- The end of a field: one always begins after it when `always`, else only if the field
  before it has anything. -/
  | fieldBreak (always : Bool)
  deriving Repr, Inhabited

/-- How the output of a command substitution is obtained: the evaluator runs the command in a
copy of the shell and gives what it wrote. -/
abbrev Substitute := Option Cmd → ScriptM Octets

/-- Whether an octet is a blank that `IFS` may hold. -/
def isIfsBlank (c : Char) : Bool := c == ' ' || c == '\t' || c == '\n'

/-- The state of field splitting: the finished fields, the field being made, whether it
exists, and whether a blank separator has just ended a field. -/
structure Splitting where
  done : List (List (Char × Bool)) := []
  cur : List (Char × Bool) := []
  started : Bool := false
  afterBlank : Bool := false

namespace Splitting

/-- Ends the field being made. -/
def emit (s : Splitting) : Splitting :=
  { s with done := s.done ++ [s.cur], cur := [], started := false }

/-- Takes one octet of an unquoted expansion. -/
def step (ifs : List Char) (s : Splitting) (c : Char) : Splitting :=
  if ifs.contains c then
    if isIfsBlank c then
      if s.started then { s.emit with afterBlank := true } else s
    else if s.started then { s.emit with afterBlank := false }
    else if s.afterBlank then { s with afterBlank := false }
    else { s.emit with afterBlank := false }
  else { s with cur := s.cur ++ [(c, false)], started := true, afterBlank := false }

/-- Takes one part of an expanded word. -/
def take (ifs : List Char) (s : Splitting) : Seg → Splitting
  | .chars t true _ =>
      { s with cur := s.cur ++ t.toList.map (·, true), started := true, afterBlank := false }
  | .chars t false false =>
      if t.isEmpty then s
      else { s with cur := s.cur ++ t.toList.map (·, false), started := true, afterBlank := false }
  | .chars t false true => t.toList.foldl (step ifs) s
  | .fieldBreak true => { s.emit with started := true, afterBlank := false }
  | .fieldBreak false => if s.started then { s.emit with afterBlank := false } else s

end Splitting

/-- Splits an expanded word into fields, each octet with whether it is quoted. -/
def splitFields (ifs : Octets) (segs : List Seg) : List (List (Char × Bool)) :=
  let s := segs.foldl (Splitting.take ifs.toList) {}
  if s.started then s.emit.done else s.done

/-- The octets of an expanded word, unsplit, each with whether it is quoted. -/
def joinSegs (segs : List Seg) : List (Char × Bool) :=
  segs.flatMap fun
    | .chars t q _ => t.toList.map (·, q)
    | .fieldBreak _ => []

/-- The home directory of a user, from the account list. -/
def homeOf (fs : Fs) (user : String) : Option Octets :=
  let lines := ((fs.contentAt "/etc/passwd").splitOn "\n")
  lines.findSome? fun l =>
    match l.splitOn ":" with
    | n :: _ :: _ :: _ :: _ :: home :: _ => if n == user then some home else none
    | _ => none

/-- The directory a tilde prefix names (`~` or `~user`), if it names one. -/
def tildeHome (user : String) : ScriptM (Option Octets) := do
  if user.isEmpty then return (← getState).get? "HOME"
  else return homeOf (← getWorld).fs user

/-- Replaces a tilde prefix at the start of a literal text, if the prefix ends in the text at
a `/` (or a `:` when `colon`), or the text ends the word: the pieces it becomes. -/
def tildePiece (colon : Bool) (s : Octets) (last : Bool) : ScriptM (List Piece) := do
  match s.toList with
  | '~' :: rest =>
      let stop := fun (c : Char) => c == '/' || (colon && c == ':')
      let user := rest.takeWhile (!stop ·)
      let after := rest.dropWhile (!stop ·)
      if after.isEmpty && !last then return [.text s false]
      match ← tildeHome (String.ofList user) with
      | some home => return [.text home true, .text (String.ofList after) false]
      | none => return [.text s false]
  | _ => return [.text s false]

/-- Expands the tildes of an assignment's value: at its start and after each unquoted `:`. -/
def tildeAfterColons (s : Octets) (last : Bool) : ScriptM (List Piece) := do
  let chunks := s.splitOn ":"
  let n := chunks.length
  let mut out : List Piece := []
  for (chunk, i) in chunks.zip (List.range n) do
    let ps ← tildePiece true chunk (last || i + 1 < n)
    out := out ++ (if i == 0 then [] else [Piece.text ":" false]) ++ ps
  return out

/-- The pieces of a word with its tilde prefixes expanded: at its start, and in an
assignment (`assign`) also after unquoted colons. -/
def expandTildes (assign : Bool) (w : Word) : ScriptM Word := do
  match w with
  | .text s false :: rest =>
      if assign then return (← tildeAfterColons s rest.isEmpty) ++ rest
      else return (← tildePiece false s rest.isEmpty) ++ rest
  | _ => return w

/-- The positional parameters joined for `$*`: by the first character of `IFS`, by a blank
when `IFS` is unset, and by nothing when it is empty. -/
def joinParams (st : Interp) : Octets :=
  let sep := match st.get? "IFS" with
    | some s => (s.toList.head?.map String.singleton).getD ""
    | none => " "
  sep.intercalate st.params

/-- The value of a parameter that is not `@` or `*`, if it is set. -/
def paramValue (name : String) : ScriptM (Option Octets) := do
  let st ← getState
  match name with
  | "?" => return some (toString st.status)
  | "$" => return some (toString st.pid)
  | "#" => return some (toString st.params.length)
  | "!" => return st.lastBackground.map toString
  | "-" => return some st.flags
  | "0" => return some st.arg0
  | "LINENO" =>
      let l := if st.funcLine > 0 then st.line + 1 - st.funcLine else st.line
      return some (toString l)
  | _ =>
      if !name.isEmpty && name.toList.all isDigitChar then
        let n := name.toList.foldl (fun (k : Nat) (d : Char) => k * 10 + (d.toNat - 48)) 0
        return if n == 0 then some st.arg0 else st.params[n - 1]?
      else return st.get? name

/-- The shortest or longest prefix (`fromStart`) or suffix of a value that a pattern matches
removed, or the value when none matches. -/
def trimBy (pattern : List (Char × Bool)) (fromStart longest : Bool) (v : Octets) : Octets :=
  let cs := v.toList
  let n := cs.length
  let cuts := if longest then (List.range (n + 1)).reverse else List.range (n + 1)
  let found := cuts.find? fun k =>
    if fromStart then Glob.accepts pattern (String.ofList (cs.take k))
    else Glob.accepts pattern (String.ofList (cs.drop (n - k)))
  match found with
  | some k => if fromStart then String.ofList (cs.drop k) else String.ofList (cs.take (n - k))
  | none => v

/-- The message of an arithmetic error. -/
def arithMessage (expr : Octets) : Arith.ArithError → Octets
  | .invalid what => "arithmetic expression: " ++ what ++ ": \"" ++ expr ++ "\""
  | .illegalNumber v => "Illegal number: " ++ v
  | .readOnly n => Octets.ofText n ++ ": is read only"

/-- Evaluates an arithmetic expression's text, making its assignments. -/
def evalArith (expr : Octets) : ScriptM Int64 := do
  let st ← getState
  let vars : Arith.Vars :=
    { value := fun n => st.get? n, readOnly := fun n => ((st.var? n).map (·.readOnly)).getD false }
  match Arith.eval vars expr with
  | .ok (v, sets) => do
      for (n, x) in sets do
        setVar n (toString x)
      return v
  | .error e => fail (arithMessage expr e)

/-- The command substitution's output without its final newlines. -/
def dropFinalNewlines (s : Octets) : Octets :=
  String.ofList (s.toList.reverse.dropWhile (· == '\n')).reverse

mutual

/-- Expands the pieces of a word into parts.  `fields` is whether the parts will be split into
fields; `wordSplit` whether literal unquoted text splits too, as in the word of an unquoted
`${...}`. -/
def expandSegs (sub : Substitute) : Nat → Bool → Bool → Word → ScriptM (List Seg)
  | 0, _, _, _ => pure []
  | f + 1, fields, wordSplit, ps => do
      let mut out : List Seg := []
      for p in ps do
        let segs ← expandPiece sub f fields wordSplit p
        out := out ++ segs
      return out

/-- Expands one piece of a word. -/
def expandPiece (sub : Substitute) : Nat → Bool → Bool → Piece → ScriptM (List Seg)
  | 0, _, _, _ => pure []
  | f + 1, fields, wordSplit, p => do
      match p with
      | .text s q => return [.chars s q (wordSplit && !q)]
      | .command body q => do
          let out ← sub body
          return [.chars (dropFinalNewlines out) q (!q)]
      | .arith e q => do
          let text ← expandText sub f false e
          let v ← evalArith text
          return [.chars (toString v) q (!q)]
      | .param name op word q => expandParam sub f fields name op word q

/-- Expands a parameter. -/
def expandParam (sub : Substitute) : Nat → Bool → String → ParamOp → Word → Bool →
    ScriptM (List Seg)
  | 0, _, _, _, _, _ => pure []
  | f + 1, fields, name, op, word, q => do
      let st ← getState
      let many := name == "@" || name == "*"
      let value : Option Octets ← if many then
          pure (if st.params.isEmpty then none else some (joinParams st))
        else paramValue name
      let isSet := value.isSome
      let usable := fun (orEmpty : Bool) => isSet && !(orEmpty && value == some "")
      let valueSegs : ScriptM (List Seg) := do
        if many && fields then
          if q && name == "@" then
            return (st.params.map fun v => Seg.chars v true false).intersperse (.fieldBreak true)
          else if q then return [.chars (joinParams st) true false]
          else
            let sep : Seg := match st.get? "IFS" with
              | some "" => .fieldBreak false
              | some s => .chars (String.singleton (s.toList.headD ' ')) false true
              | none => .chars " " false true
            return (st.params.map fun v => Seg.chars v false true).intersperse sep
        else return [.chars (value.getD "") q (!q)]
      let wordSegs := expandSegs sub f fields (!q) word
      let needSet := do
        if !isSet && st.opts.nounset && !many then
          fail (Octets.ofText name ++ ": parameter not set")
      match op with
      | .plain => do
          needSet
          valueSegs
      | .length => do
          needSet
          let n := if many && name == "@" then (joinParams st).length else (value.getD "").length
          return [.chars (toString n) q (!q)]
      | .orDefault orEmpty => if usable orEmpty then valueSegs else wordSegs
      | .ifSet orEmpty => if usable orEmpty then wordSegs else pure []
      | .orAssign orEmpty =>
          if usable orEmpty then valueSegs
          else do
            let w ← expandTildes false word
            let text ← expandText sub f false w
            if !isName name then fail (Octets.ofText name ++ ": bad variable name")
            setVar name text
            return [.chars text q (!q)]
      | .orFail orEmpty =>
          if usable orEmpty then valueSegs
          else do
            let msg ← if word.isEmpty then
                pure ("parameter not set" ++ (if orEmpty then " or null" else ""))
              else expandText sub f false word
            fail (Octets.ofText name ++ ": " ++ msg)
      | .dropPrefix longest => do
          needSet
          let pat ← expandPattern sub f word
          return [.chars (trimBy pat true longest (value.getD "")) q (!q)]
      | .dropSuffix longest => do
          needSet
          let pat ← expandPattern sub f word
          return [.chars (trimBy pat false longest (value.getD "")) q (!q)]
      | .malformed => fail "Bad substitution"

/-- Expands a word into one text, unsplit, its quotes removed; `assign` expands tildes as in
an assignment's value. -/
def expandText (sub : Substitute) : Nat → Bool → Word → ScriptM Octets
  | 0, _, _ => pure ""
  | f + 1, _, w => do
      let segs ← expandSegs sub f false false w
      return String.ofList ((joinSegs segs).map Prod.fst)

/-- Expands a word into a pattern: its octets, each with whether it is quoted. -/
def expandPattern (sub : Substitute) : Nat → Word → ScriptM (List (Char × Bool))
  | 0, _ => pure []
  | f + 1, w => do
      let w ← expandTildes false w
      let segs ← expandSegs sub f false false w
      return joinSegs segs

end

/-- The fuel of an expansion, more than any word nests. -/
def expandFuel : Nat := 4096

/-- Expands a word into fields: tildes, expansions, splitting and file names. -/
def expandFields (sub : Substitute) (w : Word) : ScriptM (List Octets) := do
  let w ← expandTildes false w
  let segs ← expandSegs sub expandFuel true false w
  let st ← getState
  let fields := splitFields st.ifs segs
  let fs := (← getWorld).fs
  return fields.flatMap fun field =>
    let plain := String.ofList (field.map Prod.fst)
    if st.opts.noglob || !Glob.hasMeta field then [plain]
    else
      match Glob.expand fs st.cwd field with
      | [] => [plain]
      | found => found

/-- Expands a word into one text, with its leading tilde, as a `case` subject or a
redirection's target is. -/
def expandWordText (sub : Substitute) (w : Word) : ScriptM Octets := do
  let w ← expandTildes false w
  expandText sub expandFuel false w

/-- Expands an assignment's value. -/
def expandValue (sub : Substitute) (w : Word) : ScriptM Octets := do
  let w ← expandTildes true w
  expandText sub expandFuel true w

/-- Expands a pattern of a `case`. -/
def expandCasePattern (sub : Substitute) (w : Word) : ScriptM (List (Char × Bool)) :=
  expandPattern sub expandFuel w

/-- Expands the text of a here-document. -/
def expandHereText (sub : Substitute) (w : Word) : ScriptM Octets :=
  expandText sub expandFuel false w

end Conch.Script
