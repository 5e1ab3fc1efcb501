/-!
# The `echo` command

`echo` writes its arguments joined by single spaces.  Leading arguments made of a dash and
one or more `n` suppress the final newline and are not written; the first argument of any
other form ends the flags.

Main definitions: `isNoNewlineFlag` and `echoText`.
-/

namespace Conch

/-- Whether an argument is a dash followed by one or more `n`. -/
def isNoNewlineFlag (arg : String) : Bool :=
  match arg.toList with
  | '-' :: rest => !rest.isEmpty && rest.all (· == 'n')
  | _ => false

/-- What `echo` writes for its arguments (the command name excluded). -/
def echoText (args : List String) : String :=
  let words := args.dropWhile isNoNewlineFlag
  let body := " ".intercalate words
  if words.length == args.length then body ++ "\n" else body

end Conch
