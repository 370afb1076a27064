import ArchModel.Text.Lines

/-!
# Flags and commands

* `Flag` is a flag, `Flag.names` are the texts that give it.
* `ArgumentForm` is what a command accepts on the command line: its flags, and what stands beside
  them. `ArgumentForm.top` is the form of the program as a whole, `Command.form` that of a command.
-/

namespace ArchModel

open Text

/-- A flag on the command line. -/
inductive Flag
  | help
  | verbose
  | includeUndeclared
  | includeInvalid
  | invalidOnly
  | strict
  | output
  deriving DecidableEq, Repr, Inhabited

namespace Flag

/-- The texts that give a flag, a short one with one dash and a long one with two. -/
def names : Flag → List String
  | help => ["-h", "--help"]
  | verbose => ["-v", "--verbose"]
  | includeUndeclared => ["-u", "--include-undeclared"]
  | includeInvalid => ["-i", "--include-invalid"]
  | invalidOnly => ["--invalid-only"]
  | strict => ["--strict"]
  | output => ["-o", "--output"]

/-- The name of a flag in messages. -/
def title (f : Flag) : String := join "/" f.names

/-- Whether a flag has a value. -/
def takesValue : Flag → Bool
  | output => true
  | _ => false

end Flag

/-- What stands beside the flags. -/
inductive Operand
  /-- A command with arguments of its own. -/
  | command
  /-- A path, which may be absent. -/
  | path
  deriving DecidableEq, Repr, Inhabited

/-- What is accepted on a command line. -/
structure ArgumentForm where
  /-- What the line calls. -/
  program : String
  flags : List Flag
  operand : Operand
  /-- How to use it, in short. -/
  usage : String
  /-- What else there is to know. -/
  details : String
  deriving DecidableEq, Repr, Inhabited

/-- What the program can be asked to do. -/
inductive Command
  /-- Analyse a container. -/
  | container
  /-- Analyse a workspace. -/
  | workspace
  deriving DecidableEq, Repr, Inhabited

namespace Command

/-- The word for a command. -/
def word : Command → String
  | container => "container"
  | workspace => "workspace"

/-- All commands. -/
def all : List Command := [container, workspace]

/-- The command of a word. -/
def ofWord? (s : String) : Option Command := all.find? (·.word = s)

end Command

/-- The name of the program. -/
def programName : String := "c4model"

namespace ArgumentForm

/-- The pairs of a name and its flag, in order. -/
def names (f : ArgumentForm) : List (String × Flag) :=
  f.flags.flatMap fun flag => flag.names.map fun name => (name, flag)

/-- The flag that a text names in full. -/
def named? (f : ArgumentForm) (s : String) : Option Flag :=
  (f.names.find? (·.1 = s)).map (·.2)

/-- The full help. -/
def help (f : ArgumentForm) : String := f.usage ++ "\n" ++ f.details

/-- The form of the program as a whole. -/
def top : ArgumentForm where
  program := programName
  flags := [.help, .verbose]
  operand := .command
  usage := "usage: c4model [-h] [-v] \x7bcontainer,workspace\x7d ...\n"
  details := join "\n" [
    "Extract a C4 component model from annotated Python sources.",
    "",
    "positional arguments:",
    "  \x7bcontainer,workspace\x7d",
    "    container           Analyse one container described by c4container.yml.",
    "    workspace           Analyse every container listed in c4workspace.yml.",
    "",
    "options:",
    "  -h, --help            show this help message and exit",
    "  -v, --verbose         Increase log verbosity for troubleshooting.",
    ""]

end ArgumentForm

/-- The form of a command. -/
def Command.form (c : Command) : ArgumentForm where
  program := programName ++ " " ++ c.word
  flags := [.help, .verbose, .includeUndeclared, .includeInvalid, .invalidOnly, .strict, .output]
  operand := .path
  usage := join "\n" [
    "usage: " ++ programName ++ " " ++ c.word ++
      " [-h] [-v] [-u] [-i] [--invalid-only] [--strict]",
    "                         [-o OUTPUT]",
    "                         [path]",
    ""]
  details := join "\n" [
    "positional arguments:",
    "  path                  Configuration file or the directory holding it",
    "                        (defaults to current directory).",
    "",
    "options:",
    "  -h, --help            show this help message and exit",
    "  -v, --verbose         Increase log verbosity for troubleshooting.",
    "  -u, --include-undeclared",
    "                        Report couplings found in code but not declared with",
    "                        @c4Relation.",
    "  -i, --include-invalid",
    "                        Report declared relations that failed validation.",
    "  --invalid-only        Report only invalid and undeclared relations.",
    "  --strict              Fail when any declaration was skipped or a business",
    "                        rule is violated.",
    "  -o OUTPUT, --output OUTPUT",
    "                        Write the JSON model to this file instead of stdout.",
    ""]

end ArchModel
