import Conch.World.Fs

/-!
# Open files and pipes

Processes do not read and write names; they read and write open files.  An open file reads
from and writes to one endpoint: a pipe, a regular file (by serial number, with the offset
of the next transfer), a device, or a directory, which can be opened for reading but not read.
It remembers whether it was opened for reading, for writing, or both.  A process refers to
open files through its descriptors, small numbers each naming one open file; two processes,
or two descriptors of one process, may name the same open file and then share its offset.

The world that processes share is the file system, the pipes with what waits in each of
them, and the open files.  The shell itself is started with its standard input, output and
error on three pipes: its input pipe holds the octets it is given, and its output pipes
collect what is written to them.

Programs run one after the other, so a pipe is always read after its writers are done:
reading takes what waits in it, and an empty pipe is at its end.

Main definitions: `World`, `World.read`, `World.write` and `World.openPath`.
-/

namespace Conch

/-- What an open file reads from and writes to. -/
inductive Endpoint where
  /-- A pipe, by number. -/
  | pipe (id : Nat)
  /-- A regular file, by serial number, with the offset of the next transfer; a file opened
  for appending writes at its end whatever its offset. -/
  | file (serial : Nat) (offset : Nat) (append : Bool)
  /-- A device. -/
  | device (d : Device)
  /-- A directory: reading it fails. -/
  | directory
  deriving DecidableEq, Repr

/-- An open file: its endpoint and the directions it was opened for. -/
structure Channel where
  endpoint : Endpoint
  readable : Bool
  writable : Bool
  deriving DecidableEq, Repr

/-- The descriptors of a process, each with the number of the open file it names. -/
abbrev Fds := List (Nat × Nat)

/-- The world that processes share. -/
structure World where
  /-- The file system. -/
  fs : Fs
  /-- What waits in each pipe, by number. -/
  pipes : List (Nat × Octets) := []
  /-- The open files, by number. -/
  channels : List (Nat × Channel) := []
  /-- The number the next pipe gets. -/
  nextPipe : Nat := 0
  /-- The number the next open file gets. -/
  nextChannel : Nat := 0
  deriving Repr, Inhabited

/-- How a file is to be opened. -/
structure Opening where
  /-- For reading. -/
  read : Bool := false
  /-- For writing. -/
  write : Bool := false
  /-- Every write goes to the end. -/
  append : Bool := false
  /-- An existing regular file is emptied. -/
  truncate : Bool := false
  /-- A missing file is made, with these permission bits. -/
  create : Option Nat := none
  /-- An existing file is refused (only with `create`). -/
  exclusive : Bool := false
  deriving Repr

namespace Opening

/-- Opening for reading. -/
def reading : Opening := { read := true }

/-- Opening for writing from the start: a missing file is made with `mode`, an existing one
emptied. -/
def replacing (mode : Nat) : Opening := { write := true, truncate := true, create := some mode }

/-- Opening for writing at the end: a missing file is made with `mode`. -/
def appending (mode : Nat) : Opening := { write := true, append := true, create := some mode }

end Opening

/-- The descriptors of a process that uses the shell's own standard streams. -/
def standardFds : Fds := [(0, 0), (1, 1), (2, 2)]

namespace World

/-- The world of a shell started on a file system with `input` waiting on its standard input:
its three standard streams are pipes 0, 1 and 2, open as files 0, 1 and 2. -/
def boot (fs : Fs) (input : Octets) : World :=
  { fs, pipes := [(0, input), (1, ""), (2, "")],
    channels := [(0, ⟨.pipe 0, true, false⟩), (1, ⟨.pipe 1, false, true⟩),
                 (2, ⟨.pipe 2, false, true⟩)],
    nextPipe := 3, nextChannel := 3 }

/-- The open file with a number. -/
def channel? (w : World) (c : Nat) : Option Channel := w.channels.lookup c

/-- Replaces the open file with a number. -/
def setChannel (w : World) (c : Nat) (ch : Channel) : World :=
  { w with channels := w.channels.map (fun e => if e.1 == c then (c, ch) else e) }

/-- What waits in a pipe. -/
def pipeData (w : World) (id : Nat) : Octets := (w.pipes.lookup id).getD ""

/-- Replaces what waits in a pipe. -/
def setPipe (w : World) (id : Nat) (data : Octets) : World :=
  { w with pipes := (id, data) :: w.pipes.filter (·.1 != id) }

/-- Opens a new file on an endpoint: the world and the open file's number.  The table holds
the newest open file first. -/
def addChannel (w : World) (ch : Channel) : World × Nat :=
  ({ w with channels := (w.nextChannel, ch) :: w.channels, nextChannel := w.nextChannel + 1 },
   w.nextChannel)

/-- Makes a new pipe: the world, the number of its reading end and of its writing end. -/
def newPipe (w : World) : World × Nat × Nat :=
  let id := w.nextPipe
  let w := { w with pipes := w.pipes ++ [(id, "")], nextPipe := id + 1 }
  let (w, r) := w.addChannel ⟨.pipe id, true, false⟩
  let (w, wr) := w.addChannel ⟨.pipe id, false, true⟩
  (w, r, wr)

/-- At most `limit` octets of a text from its start, or all of it. -/
def upTo (limit : Option Nat) (s : Octets) : Octets :=
  match limit with
  | some n => (s.take n).copy
  | none => s

/-- Zero octets for a read of `limit` from an endless device; a read of everything from one
is given none, as no program here asks for it. -/
def zeros (limit : Option Nat) : Octets :=
  match limit with
  | some n => String.ofList (List.replicate n (Char.ofNat 0))
  | none => ""

/-- Reads at most `limit` octets (all there are when `none`) from an open file: what was read
and the world after it. -/
def read (w : World) (c : Nat) (limit : Option Nat) : Except Errno Octets × World :=
  match w.channel? c with
  | none => (.error .badDescriptor, w)
  | some ch =>
      if !ch.readable then (.error .badDescriptor, w)
      else
        match ch.endpoint with
        | .pipe id =>
            let data := w.pipeData id
            let got := upTo limit data
            (.ok got, w.setPipe id (data.drop got.length).copy)
        | .file serial offset append =>
            let got := upTo limit ((w.fs.contentOf serial).drop offset).copy
            (.ok got, w.setChannel c { ch with endpoint := .file serial (offset + got.length) append })
        | .device .null => (.ok "", w)
        | .device (.stream _) => (.error .badDescriptor, w)
        | .device _ => (.ok (zeros limit), w)
        | .directory => (.error .isDirectory, w)

/-- What a read of everything from an open file would give, leaving it unread. -/
def available (w : World) (c : Nat) : Except Errno Octets := (w.read c none).1

/-- Reads and drops `n` octets from an open file. -/
def consume (w : World) (c : Nat) (n : Nat) : World :=
  if n == 0 then w else (w.read c (some n)).2

/-- Reads one line from an open file, octet by octet: the line without its newline and the
world after it, or nothing when the file is at its end. -/
def readLine (w : World) (c : Nat) : Option (Octets × World) :=
  match w.available c with
  | .ok data =>
      if data.isEmpty then none
      else
        let line := data.toList.takeWhile (· != '\n')
        let taken := if line.length < data.length then line.length + 1 else line.length
        some (String.ofList line, w.consume c taken)
  | .error _ => none

/-- Writes `text` over a file's octets at `offset`, filling a gap with zero octets. -/
def overwriteAt (content : Octets) (offset : Nat) (text : Octets) : Octets :=
  let head := (content.take offset).copy
  let gap := String.ofList (List.replicate (offset - content.length) (Char.ofNat 0))
  head ++ gap ++ text ++ (content.drop (offset + text.length)).copy

/-- Writes octets to an open file.  Writing nothing always succeeds. -/
def write (w : World) (c : Nat) (text : Octets) : Except Errno World :=
  if text.isEmpty then .ok w
  else
    match w.channel? c with
    | none => .error .badDescriptor
    | some ch =>
        if !ch.writable then .error .badDescriptor
        else
          match ch.endpoint with
          | .pipe id => .ok (w.setPipe id (w.pipeData id ++ text))
          | .file serial offset append =>
              let content := w.fs.contentOf serial
              if append then
                let content := content ++ text
                .ok ({ w with fs := w.fs.setContent serial content }.setChannel c
                  { ch with endpoint := .file serial content.length true })
              else
                .ok ({ w with fs := w.fs.setContent serial (overwriteAt content offset text) }.setChannel c
                  { ch with endpoint := .file serial (offset + text.length) false })
          | .device .full => .error .noSpace
          | .device (.stream _) => .error .badDescriptor
          | .device _ => .ok w
          | .directory => .error .badDescriptor

/-- The open file that reopening an open file through its descriptor's name gives: a pipe,
device or directory is shared again, a regular file is opened afresh from its start. -/
def reopen (w : World) (ch : Channel) (how : Opening) : World × Channel :=
  let dirs := fun (e : Endpoint) => (⟨e, how.read, how.write⟩ : Channel)
  match ch.endpoint with
  | .file serial _ _ =>
      let w := if how.truncate then { w with fs := w.fs.setContent serial "" } else w
      (w, dirs (.file serial 0 how.append))
  | e => (w, dirs e)

/-- Opens the file at `path`, seen from `cwd`, by a process with descriptors `fds`: the world
and the new open file's number. -/
def openPath (w : World) (fds : Fds) (cwd path : Octets) (how : Opening) :
    Except Errno (World × Nat) :=
  let spot : Except Errno Spot := match how.create with
    | some _ => w.fs.locate cwd path
    | none => (w.fs.resolve cwd path).map .existing
  match spot with
  | .error e => .error e
  | .ok (.fresh p) =>
      let fs := w.fs.createFile p "" (how.create.getD 0o644)
      match fs.serialAt p with
      | some n => .ok ({ w with fs }.addChannel ⟨.file n 0 how.append, how.read, how.write⟩)
      | none => .error .noEntry
  | .ok (.existing p) =>
      match w.fs.find p with
      | none => .error .noEntry
      | some e =>
          if how.exclusive && how.create.isSome then .error .exists
          else
            match e.node with
            | .directory => if how.write then .error .isDirectory
                else .ok (w.addChannel ⟨.directory, how.read, false⟩)
            | .file n =>
                let w := if how.truncate && how.write then { w with fs := w.fs.setContent n "" } else w
                .ok (w.addChannel ⟨.file n 0 how.append, how.read, how.write⟩)
            | .program _ =>
                if how.write then
                  let fs := w.fs.createFile p "" e.mode
                  match fs.serialAt p with
                  | some n => .ok ({ w with fs }.addChannel ⟨.file n 0 how.append, how.read, how.write⟩)
                  | none => .error .noEntry
                else
                  let (fs, n) := w.fs.newFile ""
                  .ok ({ w with fs }.addChannel ⟨.file n 0 false, how.read, false⟩)
            | .device (.stream fd) =>
                match (fds.lookup fd).bind w.channel? with
                | some ch =>
                    let (w, ch) := w.reopen ch how
                    .ok (w.addChannel ch)
                | none => .error .noEntry
            | .device d => .ok (w.addChannel ⟨.device d, how.read, how.write⟩)
            | .link _ => .error .loop

/-- The open file a descriptor names. -/
def fdChannel (fds : Fds) (fd : Nat) : Option Nat := fds.lookup fd

/-- Reads from a descriptor, as `read` does. -/
def readFd (w : World) (fds : Fds) (fd : Nat) (limit : Option Nat) : Except Errno Octets × World :=
  match fds.lookup fd with
  | some c => w.read c limit
  | none => (.error .badDescriptor, w)

/-- Writes to a descriptor, as `write` does. -/
def writeFd (w : World) (fds : Fds) (fd : Nat) (text : Octets) : Except Errno World :=
  match fds.lookup fd with
  | some c => w.write c text
  | none => if text.isEmpty then .ok w else .error .badDescriptor

/-- The serial number of the regular file a descriptor names, if it names one. -/
def fdSerial (w : World) (fds : Fds) (fd : Nat) : Option Nat :=
  match (fds.lookup fd).bind w.channel? with
  | some ⟨.file n _ _, _, _⟩ => some n
  | _ => none

/-- Whether a descriptor names an open regular file. -/
def fdIsFile (w : World) (fds : Fds) (fd : Nat) : Bool := (w.fdSerial fds fd).isSome

/-- What the shell has written to its standard output. -/
def output (w : World) : Octets := w.pipeData 1

/-- What the shell has written to its standard error. -/
def errors (w : World) : Octets := w.pipeData 2

end World

end Conch
