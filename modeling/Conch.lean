import Conch.Builtin.Echo
import Conch.Builtin.Exit
import Conch.Builtin.Options
import Conch.Builtin.Run
import Conch.Command.Resolve
import Conch.Config.Settings
import Conch.Config.Toml
import Conch.Env.Store
import Conch.Expand.Fields
import Conch.Expand.Word
import Conch.History.Ring
import Conch.Main
import Conch.Programs.Basic
import Conch.Programs.Condition
import Conch.Programs.Dump
import Conch.Programs.Exec
import Conch.Programs.Expression
import Conch.Programs.Fields
import Conch.Programs.Files
import Conch.Programs.Format
import Conch.Programs.Getopt
import Conch.Programs.Grep
import Conch.Programs.Lines
import Conch.Programs.Listing
import Conch.Programs.Pattern
import Conch.Programs.Sed
import Conch.Programs.Sort
import Conch.Programs.Stream
import Conch.Programs.Text
import Conch.Programs.Tools
import Conch.Programs.Translate
import Conch.Programs.Xargs
import Conch.Proofs.Commands
import Conch.Proofs.Completion
import Conch.Proofs.ExitStatus
import Conch.Proofs.ExpandedTokens
import Conch.Proofs.FileSpots
import Conch.Proofs.Grammar
import Conch.Proofs.HeredocBodies
import Conch.Proofs.Heredocs
import Conch.Proofs.HistoryFile
import Conch.Proofs.Isolation
import Conch.Proofs.Layout
import Conch.Proofs.Lexemes
import Conch.Proofs.Lookahead
import Conch.Proofs.Operands
import Conch.Proofs.PipeEnds
import Conch.Proofs.ProgramLookup
import Conch.Proofs.Reading
import Conch.Proofs.Reaping
import Conch.Proofs.Recognition
import Conch.Proofs.Respacing
import Conch.Proofs.Retention
import Conch.Proofs.SavedHistory
import Conch.Proofs.Session
import Conch.Proofs.ShellLevel
import Conch.Proofs.Spawning
import Conch.Proofs.Splitting
import Conch.Proofs.StandardInput
import Conch.Proofs.StoreLaws
import Conch.Proofs.Variables
import Conch.Proofs.Viability
import Conch.Proofs.WorkingDirectory
import Conch.Script.Arith
import Conch.Script.Builtins
import Conch.Script.Eval
import Conch.Script.Expand
import Conch.Script.Glob
import Conch.Script.Interp
import Conch.Script.Printf
import Conch.Script.Reader
import Conch.Script.Shell
import Conch.Script.Syntax
import Conch.Script.Test
import Conch.Session.Build
import Conch.Session.Input
import Conch.Session.Loop
import Conch.Session.Run
import Conch.Session.Sandbox
import Conch.Session.State
import Conch.Startup.Events
import Conch.Startup.Level
import Conch.Status
import Conch.Syntax.Check
import Conch.Syntax.Scan
import Conch.Syntax.Token
import Conch.Text.Decimal
import Conch.Text.Floating
import Conch.Text.Quoted
import Conch.Text.Size
import Conch.Text.Utf8
import Conch.Text.Version
import Conch.Text.WhiteSpace
import Conch.World.Fs
import Conch.World.Machine
import Conch.World.Mode
import Conch.World.Path
import Conch.World.Streams
