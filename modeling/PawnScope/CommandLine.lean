import PawnScope.Frame

/-! # The command line

The program prints its version or its usage, or serves an editor on its standard input and
output. -/

namespace PawnScope.CommandLine

/-- What the arguments ask for. -/
inductive Command where
  | version
  | usage
  | serve
  | unknown (argument : String)
  deriving DecidableEq, Repr

/-- Reads the arguments in order; `stdio` says whether serving was asked for before. The first
argument that asks for something else decides. -/
def parseFrom (stdio : Bool) : List String → Command
  | [] => if stdio then .serve else .usage
  | argument :: rest =>
      if argument = "--stdio" then parseFrom true rest
      else if argument = "--version" then .version
      else if argument = "--help" then .usage
      else .unknown argument

def parse : List String → Command := parseFrom false

/-- The name and the version of the program. -/
def versionText : String := Editor.toolName ++ " " ++ Session.version

def usageText : String :=
  versionText ++ ", a cross-file SourcePawn completion server.\n" ++
  "\n" ++
  "Usage: sourcepawn-index [OPTIONS]\n" ++
  "\n" ++
  "Available options:\n" ++
  "\n" ++
  "--stdio                      Start the LSP server using stdio transport\n" ++
  "--version                    Print the version\n" ++
  "--help                       Print this help message\n" ++
  "\n"

/-- What the program leaves behind. -/
structure Outcome where
  code : Nat := 0
  stdout : String := ""
  stderr : String := ""
  deriving DecidableEq, Repr

/-- The outcome of a command that does not serve. -/
def Command.outcome? : Command → Option Outcome
  | .version => some { stdout := versionText ++ "\n" }
  | .usage => some { stdout := usageText }
  | .unknown argument =>
      some { code := 1, stderr := "Error: Unknown argument: '" ++ argument ++ "'\n" }
  | .serve => none

/-- Runs the program on a whole input. -/
def run (disk : Disk) (arguments : List String) (stdin : List UInt8) : Outcome :=
  match (parse arguments).outcome? with
  | some outcome => outcome
  | none => { stdout := String.join (Frame.serve disk stdin) }

end PawnScope.CommandLine
