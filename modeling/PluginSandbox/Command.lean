import PluginSandbox.Text.Ascii
import PluginSandbox.Text.Blank
import PluginSandbox.Text.Split

/-!
# Screening of commands

Command lines that hand code to a shell or an interpreter. A program is known
by the last part of its path, in lower case and without `.exe`; interpreters
are also known with a version behind their name.

## Main definitions

* `baseName`: the name of a program.
* `isShell`, `isInterpreter`: the known programs.
* `CommandClass`, `classify`: what an invocation does.
-/

namespace PluginSandbox

open Text

/-- The names of shells. -/
def shells : List String := ["sh", "bash", "dash", "zsh", "ksh", "csh", "tcsh", "fish"]

/-- The names of interpreters, with the options in front of code. -/
def interpreters : List (String × List String) := [
  ("python", ["-c", "--command"]),
  ("pypy", ["-c"]),
  ("perl", ["-e", "-E"]),
  ("ruby", ["-e"]),
  ("node", ["-e", "--eval", "-p", "--print"]),
  ("nodejs", ["-e", "--eval", "-p", "--print"]),
  ("deno", ["eval"]),
  ("bun", ["-e", "--eval"]),
  ("php", ["-r"]),
  ("lua", ["-e"]),
  ("luajit", ["-e"]),
  ("rscript", ["-e"]),
  ("tclsh", ["-c"]),
  ("pwsh", ["-c", "-command"]),
  ("powershell", ["-c", "-command"])]

/-- The names of the programs whose code is an argument of its own. -/
def awkFamily : List String := ["awk", "gawk", "mawk", "nawk"]

/-- How code for these programs starts. -/
def awkStarts : List String := ["BEGIN\x7b", "BEGIN \x7b", "END\x7b", "END \x7b"]

/-- Options that stand in front of code in many programs. -/
def codeOptions : List String := ["-c", "-e", "-E", "-r", "--eval", "--command"]

/-- What an invocation does. -/
inductive CommandClass where
  /-- Nothing suspicious. -/
  | safe
  /-- A shell is given something to do. -/
  | shell
  /-- An interpreter is given code. -/
  | interpreter
  /-- An unknown program is given an option that may stand in front of code. -/
  | suspicious
  deriving DecidableEq

namespace CommandClass

/-- Anything but safe. -/
def isDangerous (cls : CommandClass) : Bool := cls != safe

/-- The name of a class. -/
def name : CommandClass → String
  | safe => "safe"
  | shell => "shell"
  | interpreter => "interpreter"
  | suspicious => "suspicious"

end CommandClass

/-- A separator of the parts of a path. -/
def isPathSeparator (c : Char) : Bool := c = '/' || c = '\\'

/-- The name of a program: the last part of its path, in lower case and without `.exe`. -/
def baseName (command : List Char) : List Char :=
  let last := lower (afterLast isPathSeparator (trim command))
  (stripSuffix? ".exe".toList last).getD last

/-- The name is one of a list. -/
def isNamed (names : List String) (name : List Char) : Bool := names.any fun n => n.toList == name

/-- The name of a shell. -/
def isShell (name : List Char) : Bool := isNamed shells name

/-- A version behind a name. -/
def isVersionChar (c : Char) : Bool := isDigit c || c = '.'

/-- The options of an interpreter of exactly this name. -/
def optionsOf? (name : List Char) : Option (List String) :=
  (interpreters.find? fun i => i.1.toList == name).map fun i => i.2

/-- The options of an interpreter, known with or without a version behind its name. -/
def interpreterOptions? (name : List Char) : Option (List String) :=
  match optionsOf? name with
  | some options => some options
  | none => optionsOf? (trimEndBy isVersionChar name)

/-- The name of an interpreter. -/
def isInterpreter (name : List Char) : Bool :=
  isNamed awkFamily name || (interpreterOptions? name).isSome

/-- A text starts with one of a list. -/
def startsWithAny (starts : List String) (cs : List Char) : Bool :=
  starts.any fun s => s.toList.isPrefixOf cs

/-- What an invocation of a program by name does. -/
def classifyName (name : List Char) (args : List String) : CommandClass :=
  if isShell name && !args.isEmpty then .shell
  else if isNamed awkFamily name then
    if args.any fun a => startsWithAny awkStarts (trim a.toList) then .interpreter else .safe
  else match interpreterOptions? name with
    | some options =>
      if args.any fun a => startsWithAny options a.toList then .interpreter else .safe
    | none => if args.any fun a => codeOptions.contains a then .suspicious else .safe

/-- What an invocation does. -/
def classify (command : String) (args : List String) : CommandClass :=
  classifyName (baseName command.toList) args

end PluginSandbox
