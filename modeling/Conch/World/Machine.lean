import Conch.World.Fs
import Conch.Command.Resolve

/-!
# The system the shell runs on

The shell runs on a system with the usual tree: the root, `/usr/bin` holding the installed
programs (with `/bin`, `/lib` and `/sbin` links into `/usr`), the devices `/dev/null`,
`/dev/zero`, `/dev/full`, `/dev/stdin`, `/dev/stdout` and `/dev/stderr`, the account list
`/etc/passwd`, and the directories
`/etc`, `/home`, `/root`, `/tmp` and `/var`.

Main definitions: `Machine.image`, `Machine.programs` and `Fs.probe`.
-/

namespace Conch

namespace Machine

/-- The programs installed in `/usr/bin`. -/
def programs : List String :=
  ["[", "basename", "cat", "cut", "dash", "dirname", "echo", "env", "expr", "false", "fold", "grep", "head", "ls",
   "mkdir", "nl", "od", "paste", "printenv", "printf", "pwd", "rev", "rm", "rmdir", "sed", "seq", "sh", "sleep", "sort",
   "tail", "tee", "test", "touch", "tr", "true", "uniq", "wc", "xargs"]

/-- The account list of a freshly installed system: the superuser and the system accounts. -/
def accounts : String :=
  String.intercalate "\n"
    ["root:x:0:0:root:/root:/bin/bash",
     "daemon:x:1:1:daemon:/usr/sbin:/usr/sbin/nologin",
     "bin:x:2:2:bin:/bin:/usr/sbin/nologin",
     "sys:x:3:3:sys:/dev:/usr/sbin/nologin",
     "sync:x:4:65534:sync:/bin:/bin/sync",
     "games:x:5:60:games:/usr/games:/usr/sbin/nologin",
     "man:x:6:12:man:/var/cache/man:/usr/sbin/nologin",
     "lp:x:7:7:lp:/var/spool/lpd:/usr/sbin/nologin",
     "mail:x:8:8:mail:/var/mail:/usr/sbin/nologin",
     "news:x:9:9:news:/var/spool/news:/usr/sbin/nologin",
     "uucp:x:10:10:uucp:/var/spool/uucp:/usr/sbin/nologin",
     "proxy:x:13:13:proxy:/bin:/usr/sbin/nologin",
     "www-data:x:33:33:www-data:/var/www:/usr/sbin/nologin",
     "backup:x:34:34:backup:/var/backups:/usr/sbin/nologin",
     "list:x:38:38:Mailing List Manager:/var/list:/usr/sbin/nologin",
     "irc:x:39:39:ircd:/run/ircd:/usr/sbin/nologin",
     "_apt:x:42:65534::/nonexistent:/usr/sbin/nologin",
     "nobody:x:65534:65534:nobody:/nonexistent:/usr/sbin/nologin", ""]

/-- A directory entry with the usual permission bits. -/
def dir : Entry := ⟨.directory, 0o755⟩

/-- The file system of a freshly started system. -/
def image : Fs :=
  { entries :=
      [("/", dir), ("/usr", dir), ("/usr/bin", dir), ("/usr/lib", dir), ("/usr/sbin", dir),
       ("/usr/local", dir), ("/usr/local/bin", dir),
       ("/bin", ⟨.link "usr/bin", 0o777⟩), ("/lib", ⟨.link "usr/lib", 0o777⟩),
       ("/sbin", ⟨.link "usr/sbin", 0o777⟩),
       ("/dev", dir), ("/dev/null", ⟨.device .null, 0o666⟩),
       ("/dev/zero", ⟨.device .zero, 0o666⟩), ("/dev/full", ⟨.device .full, 0o666⟩),
       ("/dev/stdin", ⟨.device (.stream 0), 0o666⟩), ("/dev/stdout", ⟨.device (.stream 1), 0o666⟩),
       ("/dev/stderr", ⟨.device (.stream 2), 0o666⟩),
       ("/etc", dir), ("/home", dir), ("/root", ⟨.directory, 0o700⟩),
       ("/tmp", ⟨.directory, 0o1777⟩), ("/var", dir)] ++
      programs.map (fun p => ("/usr/bin/" ++ p, ⟨.program p, 0o755⟩)) : Fs }.createFile
    "/etc/passwd" accounts 0o644

end Machine

/-- What a path shows to a command lookup made from the working directory `cwd`.  The
superuser may run a directory or anything with an execute bit. -/
def Fs.probe (fs : Fs) (cwd : Octets) : Probe := fun p =>
  match fs.stat cwd p with
  | .ok e =>
      some { isDirectory := e.node.isDirectory, isRegular := e.node.isRegular,
             executable := e.node.isDirectory || e.executable }
  | .error _ => none

end Conch
