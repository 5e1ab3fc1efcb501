/-!
# Permission modes

Programs that set permission bits take a mode written as an octal number or in symbols.  An
octal number of at most four digits sets every bit.  A symbolic mode is a list of clauses
separated by commas; each names whose bits it changes (`u`, `g`, `o`, `a`, or nobody, which
means everybody within the file-creation mask) and then one or more actions: `+` adds bits,
`-` takes them away, `=` sets exactly them; the bits are letters among `rwxXst`, or one of
`u`, `g`, `o` to copy that part of the mode as it stands.  `X` is execute only for a
directory or a mode where someone may execute already.

Applying a mode gives the new bits, and the bits it decided: those a program must set as
they are even where the file-creation mask would clear them.

Main definitions: `Mode.compile` and `Mode.adjust`.
-/

namespace Conch.Mode

/-- The permission bits and the set-id and sticky bits. -/
def allBits : Nat := 0o7777

/-- The set-user-id and set-group-id bits. -/
def setIdBits : Nat := 0o6000

/-- How the bits of one action are found. -/
inductive Source where
  /-- These bits. -/
  | bits
  /-- The bits of one part of the mode as it stands, copied to all three parts. -/
  | copy
  /-- These bits, and execute for all when the file is a directory or someone may execute. -/
  | executeIfAny
  deriving DecidableEq, Repr

/-- One action of a mode: whose bits it touches (none named means all within the mask), its
operator, its bits and how they are found, and the bits it names. -/
structure Change where
  affected : Nat
  op : Char
  value : Nat
  source : Source := .bits
  mentioned : Nat := 0
  deriving Repr

/-- The bits of the part of the mode a letter of whom names. -/
def whoBits : Char → Nat
  | 'u' => 0o4700
  | 'g' => 0o2070
  | 'o' => 0o1007
  | _ => allBits

/-- Reads an octal mode: one to four digits (any digits of value at most `7777`). -/
def octal (s : String) : Option (List Change) :=
  let cs := s.toList
  if cs.isEmpty || !cs.all (fun c => '0' ≤ c && c ≤ '7') then none
  else
    let v := cs.foldl (fun (n : Nat) (c : Char) => n * 8 + (c.toNat - 48)) 0
    if v > allBits then none
    else
      let mentioned := if cs.length < 5 then (v &&& setIdBits) ||| 0o1777 else allBits
      some [{ affected := allBits, op := '=', value := v, mentioned }]

/-- Reads the actions of one clause after its letters of whom.  `fuel` bounds the actions. -/
def actions (affected : Nat) : Nat → List Char → Option (List Change × List Char)
  | 0, _ => none
  | fuel + 1, cs =>
      match cs with
      | op :: rest =>
          if op != '+' && op != '-' && op != '=' then none
          else
            let (change, rest) : Change × List Char := match rest with
              | c :: more =>
                  if c == 'u' || c == 'g' || c == 'o' then
                    ({ affected, op, value := whoBits c &&& 0o777, source := .copy }, more)
                  else
                    let letters := rest.takeWhile (fun c => "rwxXst".toList.contains c)
                    let value := letters.foldl (fun (v : Nat) c => v ||| (match c with
                      | 'r' => 0o444
                      | 'w' => 0o222
                      | 'x' => 0o111
                      | 's' => setIdBits
                      | 't' => 0o1000
                      | _ => 0)) 0
                    let source := if letters.contains 'X' then Source.executeIfAny else .bits
                    ({ affected, op, value, source }, rest.drop letters.length)
              | [] => ({ affected, op, value := 0 }, [])
            match rest with
            | c :: _ =>
                if c == '+' || c == '-' || c == '=' then
                  (actions affected fuel rest).map fun (cs, r) => (change :: cs, r)
                else some ([change], rest)
            | [] => some ([change], [])
      | [] => none

/-- Reads a symbolic mode.  `fuel` bounds the clauses. -/
def symbolic : Nat → List Char → Option (List Change)
  | 0, _ => none
  | fuel + 1, cs =>
      let who := cs.takeWhile (fun c => c == 'u' || c == 'g' || c == 'o' || c == 'a')
      let affected := who.foldl (fun (v : Nat) c => v ||| whoBits c) 0
      let mentioned := if affected != 0 then affected else allBits
      match actions affected (cs.length + 1) (cs.drop who.length) with
      | none => none
      | some (changes, rest) =>
          let changes := changes.map ({ · with mentioned })
          match rest with
          | [] => some changes
          | ',' :: more => (symbolic fuel more).map (changes ++ ·)
          | _ => none

/-- Reads a mode, octal or symbolic; nothing when it is malformed. -/
def compile (s : String) : Option (List Change) :=
  match octal s with
  | some cs => some cs
  | none =>
      if s.toList.any (fun c => '0' ≤ c && c ≤ '9') then none
      else symbolic (s.length + 1) s.toList

/-- Applies the changes of a mode to a mode: the new mode and the bits the changes decided.
Changes naming nobody keep to the bits the file-creation mask `umask` allows; for a
directory, set-id bits a change does not name stay as they were. -/
def adjust (old : Nat) (directory : Bool) (umask : Nat) (changes : List Change) : Nat × Nat :=
  changes.foldl (fun (acc : Nat × Nat) ch =>
    let (mode, decided) := acc
    let kept := (if directory then setIdBits else 0) &&& (allBits - (ch.mentioned &&& allBits))
    let value := match ch.source with
      | .bits => ch.value
      | .copy =>
          let v := ch.value &&& mode
          let spread := fun (part : Nat) => if v &&& part != 0 then part else 0
          v ||| spread 0o444 ||| spread 0o222 ||| spread 0o111
      | .executeIfAny =>
          if mode &&& 0o111 != 0 || directory then ch.value ||| 0o111 else ch.value
    let within := if ch.affected != 0 then ch.affected else allBits - (umask &&& allBits)
    let value := value &&& within &&& (allBits - kept)
    match ch.op with
    | '=' =>
        let preserved := (if ch.affected != 0 then allBits - ch.affected else 0) ||| kept
        ((mode &&& preserved) ||| value, decided ||| (allBits - preserved))
    | '+' => (mode ||| value, decided ||| value)
    | _ => (mode &&& (allBits - value), decided ||| value)) (old, 0)

end Conch.Mode
