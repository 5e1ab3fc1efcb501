import Conch.Programs.Getopt
import Conch.Text.Quoted

/-!
# Copying programs

`cat` and `tee` copy what they read as they read it, without buffering their output, so what
they write and what they report interleave in the order it happens.

`cat` copies each operand in turn (`-` or no operand standing for its standard input) to its
output.  A file that cannot be opened or read is reported and skipped.  A regular file that is
the very file the output goes to, with octets left to read, is refused as "input file is output
file", since copying it would never end.  The options number lines (`-n`, or `-b` for the
non-empty ones only), squeeze runs of empty lines (`-s`), and show line ends (`-E`), tabs
(`-T`) and other unprintable octets (`-v`); the numbering and the lines run on from one file
into the next.  An output that cannot be written ends `cat` at once.

`tee` copies its standard input to its output and to each named file, which it makes or
empties (or appends to, with `-a`).  A file that cannot be opened is reported and left out;
one that cannot be written is reported and written no more.

Main definitions: `cat` and `tee`.
-/

namespace Conch.Programs

/-- The operands of a filter, the standard input when there are none. -/
def orInput (ops : List String) : List String := if ops.isEmpty then ["-"] else ops

/-- The lines of a text with their newlines kept (a last line may have none). -/
def linesKeep (s : String) : List String :=
  let ls := s.splitOn "\n"
  match ls.getLast? with
  | some "" => ls.dropLast.map (· ++ "\n")
  | _ => ls.dropLast.map (· ++ "\n") ++ ls.getLast?.toList

/-- A number right-aligned in a field of `width`. -/
def padLeft (width : Nat) (s : String) : String :=
  String.ofList (List.replicate (width - s.length) ' ') ++ s

/-! ## cat -/

/-- Numbers lines as `cat -n` does (or only the non-empty ones, for `-b`). -/
def numberLines (nonEmptyOnly : Bool) (text : String) : String :=
  let (out, _) := (linesKeep text).foldl (fun (acc : String × Nat) l =>
    if nonEmptyOnly && l == "\n" then (acc.1 ++ l, acc.2)
    else (acc.1 ++ padLeft 6 (toString acc.2) ++ "\t" ++ l, acc.2 + 1)) ("", 1)
  out

/-- Marks line ends with `$`, as `cat -E` does. -/
def markEnds (text : String) : String :=
  String.join ((linesKeep text).map fun l => if l.endsWith "\n" then (l.dropEnd 1).copy ++ "$\n" else l)

/-- Keeps one empty line of each run of them, as `cat -s` does. -/
def squeezeBlank (text : String) : String :=
  let (out, _) := (linesKeep text).foldl (fun (acc : String × Bool) l =>
    let blank := l == "\n"
    if blank && acc.2 then acc else (acc.1 ++ l, blank)) ("", false)
  out

/-- How `cat -v` shows one octet: control octets as `^X`, delete as `^?`, and octets above
127 as `M-` and the octet below. -/
def showOctet (b : Nat) (tabs : Bool) : String :=
  let low := fun (c : Nat) =>
    if c == 9 && !tabs then "\t"
    else if c < 32 then "^" ++ String.ofList [Char.ofNat (c + 64)]
    else if c == 127 then "^?"
    else String.ofList [Char.ofNat c]
  if b ≥ 128 then "M-" ++ low (b - 128) else low b

/-- Shows the octets of a text as `cat -v` (and `-T` for tabs) does; newlines stay. -/
def showNonprinting (visible tabs : Bool) (text : String) : String :=
  String.join (text.toList.map fun c =>
    if c == '\n' then "\n"
    else if c == '\t' then (if tabs then "^I" else "\t")
    else if !visible then String.ofList [c]
    else showOctet c.toNat tabs)

/-- What `cat` does to the octets it copies. -/
structure CatStyle where
  /-- Number every line. -/
  number : Bool := false
  /-- Number the non-empty lines (this wins over `number`). -/
  numberNonblank : Bool := false
  /-- Keep one empty line of each run. -/
  squeeze : Bool := false
  /-- Mark line ends with `$`. -/
  ends : Bool := false
  /-- Show tabs as `^I`. -/
  tabs : Bool := false
  /-- Show other unprintable octets. -/
  visible : Bool := false

/-- The style the options of `cat` ask for. -/
def CatStyle.ofOpts (opts : List Opt) : CatStyle :=
  { number := hasOpt opts 'n', numberNonblank := hasOpt opts 'b', squeeze := hasOpt opts 's',
    ends := hasOpt opts 'E' || hasOpt opts 'A' || hasOpt opts 'e',
    tabs := hasOpt opts 'T' || hasOpt opts 'A' || hasOpt opts 't',
    visible := hasOpt opts 'v' || hasOpt opts 'A' || hasOpt opts 'e' || hasOpt opts 't' }

/-- Whether the style copies octets unchanged. -/
def CatStyle.plain (s : CatStyle) : Bool :=
  !(s.number || s.numberNonblank || s.squeeze || s.ends || s.tabs || s.visible)

/-- What `cat` writes for the octets it has copied so far; what it writes for more octets
always extends what it wrote for fewer. -/
def CatStyle.render (s : CatStyle) (text : Octets) : Octets :=
  let out := if s.squeeze then squeezeBlank text else text
  let out := if s.numberNonblank then numberLines true out
    else if s.number then numberLines false out else out
  let out := if s.visible || s.tabs then showNonprinting s.visible s.tabs out else out
  if s.ends then markEnds out else out

/-- The options of `cat`. -/
def catSpec : OptionSpec :=
  OptionSpec.ofLetters ['A', 'b', 'e', 'E', 'n', 's', 't', 'T', 'u', 'v'] []
    [("number", 'n'), ("number-nonblank", 'b'), ("show-ends", 'E'), ("show-all", 'A'),
     ("squeeze-blank", 's'), ("show-tabs", 'T'), ("show-nonprinting", 'v')]

/-- Where `cat` stands between operands: whether all went well, everything it copied, how
much it has written, and whether it had to stop. -/
structure CatProgress where
  ok : Bool := true
  copied : Octets := ""
  written : Nat := 0
  stopped : Bool := false

/-- Whether an open file is the regular file `out` with octets left to read. -/
def unreadSelf (w : World) (c : Nat) (out : Option Nat) : Bool :=
  match w.channel? c, out with
  | some ⟨.file n offset _, _, _⟩, some m => n == m && offset < (w.fs.contentOf n).length
  | _, _ => false

/-- Copies one operand of `cat`. -/
def catOne (p : Process) (style : CatStyle) (out : Option Nat) (acc : CatProgress) (op : String) :
    Proc CatProgress := do
  if acc.stopped then return acc
  let name := Quoted.name true op
  let opened ← if op == "-" then
      pure (match p.fds.lookup 0 with
        | some c => .ok c
        | none => .error .badDescriptor)
    else p.openFile op .reading
  match opened with
  | .error e => do
      p.warn (p.name ++ ": " ++ name ++ ": " ++ e.describe ++ "\n")
      return { acc with ok := false }
  | .ok c =>
      if unreadSelf (← get) c out then do
        p.warn (p.name ++ ": " ++ name ++ ": input file is output file\n")
        return { acc with ok := false }
      match ← readChannel c none with
      | .error e => do
          p.warn (p.name ++ ": " ++ name ++ ": " ++ e.describe ++ "\n")
          return { acc with ok := false }
      | .ok data =>
          let copied := acc.copied ++ data
          let shown := if style.plain then copied else style.render copied
          match ← p.write 1 (shown.drop acc.written).copy with
          | .ok () => return { acc with copied, written := shown.length }
          | .error e => do
              p.warn (p.name ++ ": write error: " ++ e.describe ++ "\n")
              return { acc with ok := false, stopped := true }

/-- `cat`: copies files to the output in turn. -/
def cat : Program := fun p => do
  match catSpec.read p.args with
  | .error e => do
      p.warn (e.message p.name)
      return .exited 1
  | .ok (opts, ops) =>
      let out := (← get).fdSerial p.fds 1
      let r ← (orInput ops).foldlM (catOne p (CatStyle.ofOpts opts) out) {}
      return .exited (if r.ok then 0 else 1)

/-! ## tee -/

/-- The options of `tee`. -/
def teeSpec : OptionSpec :=
  { shorts := [('a', .none), ('i', .none), ('p', .none)],
    longs := [⟨"append", 'a', .none⟩, ⟨"ignore-interrupts", 'i', .none⟩,
              ⟨"output-error", 'p', .optional⟩] }

/-- Writes what `tee` read to each output still open, standard output first: the outputs left
open and whether every write went well. -/
def teeWrite (p : Process) (data : Octets) (outs : List (String × Nat)) :
    Proc (List (String × Nat) × Bool) :=
  outs.foldlM (fun (acc : List (String × Nat) × Bool) (name, c) => do
    match (← get).write c data with
    | .ok w => do
        set w
        return (acc.1 ++ [(name, c)], acc.2)
    | .error e => do
        p.warn (p.name ++ ": " ++ Quoted.name true name ++ ": " ++ e.describe ++ "\n")
        return (acc.1, false)) ([], true)

/-- `tee`: copies its input to its output and to files. -/
def tee : Program := fun p => do
  match teeSpec.read p.args with
  | .error e => do
      p.warn (e.message p.name)
      return .exited 1
  | .ok (opts, files) =>
      let how : Opening := if hasOpt opts 'a' then .appending 0o666 else .replacing 0o666
      let how := { how with create := some (0o666 - (0o666 &&& p.umask)) }
      let stdout : List (String × Nat) := match p.fds.lookup 1 with
        | some c => [("standard output", c)]
        | none => []
      let (outs, ok) ← files.foldlM (fun (acc : List (String × Nat) × Bool) f => do
        match ← p.openFile f how with
        | .ok c => return (acc.1 ++ [(f, c)], acc.2)
        | .error e => do
            p.warn (p.name ++ ": " ++ Quoted.name true f ++ ": " ++ e.describe ++ "\n")
            return (acc.1, false)) (stdout, true)
      match ← p.read 0 none with
      | .ok data =>
          let (_, wrote) ← if data.isEmpty then pure (outs, true) else teeWrite p data outs
          return .exited (if ok && wrote then 0 else 1)
      | .error e => do
          p.warn (p.name ++ ": read error: " ++ e.describe ++ "\n")
          return .exited 1

end Conch.Programs
