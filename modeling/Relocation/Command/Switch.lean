/-!
# Switches

The switches of the command, with their spellings, and the texts that explain them.
-/

namespace Relocation.Command

/-- The switches of the command. -/
inductive Switch where
  | help
  | before
  | after
  | newFile
  | newDir
  | format
  | output
  | html
  | verbose
  deriving DecidableEq, Repr

namespace Switch

/-- All switches, in the order in which they are listed. -/
def all : List Switch :=
  [help, before, after, newFile, newDir, format, output, html, verbose]

/-- The spellings of a switch. -/
def spellings : Switch → List String
  | help => ["-h", "--help"]
  | before => ["--original"]
  | after => ["--refactored"]
  | newFile => ["--new-file"]
  | newDir => ["--new-dir"]
  | format => ["--format"]
  | output => ["--output"]
  | html => ["--html"]
  | verbose => ["--verbose"]

/-- Whether a switch takes a value. -/
def takesValue : Switch → Bool
  | help => false
  | verbose => false
  | _ => true

/-- A switch as messages name it. -/
def title (s : Switch) : String :=
  String.intercalate "/" s.spellings

/-- All spellings with their switches. -/
def table : List (String × Switch) :=
  all.flatMap fun s => s.spellings.map (·, s)

end Switch

/-! ## Help -/

/-- The name of the command. -/
def programName : String := "refverify"

/-- Lines, each with its end. -/
def unlines (lines : List String) : String :=
  String.join (lines.map (· ++ "\n"))

/-- How the command is called. -/
def usage : String :=
  unlines [
    s!"usage: {programName} [-h] --original ORIGINAL --refactored REFACTORED",
    "                 [--new-file NEW_FILES] [--new-dir NEW_DIRS]",
    "                 [--format \x7btable,json\x7d] [--output OUTPUT] [--html HTML]",
    "                 [--verbose]"]

/-- What the command does and what its switches mean. -/
def help : String :=
  usage ++ unlines [
    "",
    "Check that functions removed by a refactor moved to new files.",
    "",
    "options:",
    "  -h, --help            show this help message and exit",
    "  --original ORIGINAL   File content before refactoring.",
    "  --refactored REFACTORED",
    "                        File content after refactoring.",
    "  --new-file NEW_FILES  File created during refactoring. May be repeated.",
    "  --new-dir NEW_DIRS    Directory whose source files were created during",
    "                        refactoring. May be repeated.",
    "  --format \x7btable,json\x7d",
    "                        Output format.",
    "  --output OUTPUT       Optional output file path for raw JSON when --format",
    "                        json is used.",
    "  --html HTML           Optional output file path for an HTML report.",
    "  --verbose             Enable debug logging."]

end Relocation.Command
