import Umpire.Text.Lines
import Umpire.Text.Plain

/-! Why an option list is not taken: a fault in it, or a request to be shown a text instead. The texts are a short and
a long help, and the version. -/

namespace Umpire.Options.Help

/-- What the program does, in one sentence. -/
def about : String :=
  "Run a solution and an interactor side by side and report which one finished first."

/-- The shape of a command line. -/
def usage : String :=
  "Usage: pipe [OPTIONS] -- <SOLUTION_ARGS>... = <INTERACTOR_ARGS>..."

/-- The options, one line each. -/
def shortOptions : List String :=
  [
   "",
   "Options:",
   "  -i <FILE>                Input file for the solution process (also the interactor's stdout)",
   "  -o <FILE>                Output file for the solution process (also the interactor's stdin)",
   "  -e <FILE>                Stderr file for the solution process",
   "  -E <FILE>                Stderr file for the interactor process",
   "  -v                       Print the winner and both statuses to stderr as they are resolved",
   "      --log-level <LEVEL>  Logging level (error, warn, info, debug, trace) " ++
     "[possible values: error, warn, info, debug, trace]",
   "  -h, --help               Print help (see more with '--help')",
   "  -V, --version            Print version",
   ""]

/-- The options, one paragraph each. -/
def longOptions : List String :=
  [
   "",
   "Options:",
   "  -i <FILE>",
   "          Input file for the solution process (also the interactor's stdout)",
   "",
   "  -o <FILE>",
   "          Output file for the solution process (also the interactor's stdin)",
   "",
   "  -e <FILE>",
   "          Stderr file for the solution process",
   "",
   "  -E <FILE>",
   "          Stderr file for the interactor process",
   "",
   "  -v",
   "          Print the winner and both statuses to stderr as they are resolved",
   "",
   "      --log-level <LEVEL>",
   "          Logging level (error, warn, info, debug, trace).",
   "          ",
   "          Overrides `-v`. If both are omitted, `PIPE_LOG` or `warn` is used.",
   "          ",
   "          [possible values: error, warn, info, debug, trace]",
   "",
   "  -h, --help",
   "          Print help (see a summary with '-h')",
   "",
   "  -V, --version",
   "          Print version",
   ""]

/-- What stands after the options, and what is printed in the end. -/
def closing : List String :=
  [
   "Arguments:",
   "  SOLUTION_ARGS     Program and arguments for the solution process",
   "  INTERACTOR_ARGS   Program and arguments for the interactor process",
   "",
   "Special substitutions:",
   "  __FD__            Replaced with the side's private pipe descriptor number",
   "",
   "Output (stdout):",
   "  <first side to finish: 1 = solution, 2 = interactor>",
   "  <solution status>",
   "  <interactor status>"]

/-- The whole help text; the long form explains each option in a paragraph. -/
def text (long : Bool) : String :=
  let body := if long then longOptions else shortOptions
  String.join (([about, "", usage] ++ body ++ closing).map (· ++ "\n"))

/-- The program's name and version. -/
def version : String :=
  "pipe 0.1.0\n"

end Umpire.Options.Help

namespace Umpire.Options

/-- The end of an option scan that yields no settings. -/
inductive Complaint where
  /-- The help text was asked for; the long form by the long name. -/
  | help (long : Bool)
  /-- The version was asked for. -/
  | version
  /-- A token, or a letter of one, that is no option. -/
  | unknown (shown : List Char)
  /-- A value given to a flag that takes none. -/
  | unneededValue (value : List Char) (flag : String)
  /-- An option without a value, or with an empty one; the option is shown with its value's name. -/
  | missingValue (option : String)
  /-- A value that is no level. -/
  | invalidValue (value : List Char) (option : String)
  deriving DecidableEq, Repr

namespace Complaint

/-- Whether a text was asked for, which is no fault. -/
def isRequest : Complaint → Bool
  | .help _ | .version => true
  | _ => false

/-- The class of the complaint. -/
def kind : Complaint → String
  | .help _ => "DisplayHelp"
  | .version => "DisplayVersion"
  | .unknown _ => "UnknownArgument"
  | .unneededValue _ _ => "TooManyValues"
  | .missingValue _ => "InvalidValue"
  | .invalidValue _ _ => "InvalidValue"

/-- The text that was asked for. -/
def request? : Complaint → Option String
  | .help long => some (Help.text long)
  | .version => some Help.version
  | _ => none

/-- The word with which the text of a fault starts. -/
def opening : List Char :=
  "error: ".toList

/-- The whole text of the complaint up to its first full line. What was given is shown in a style of
its own, so that control sequences in it, even unfinished ones, take nothing from what follows. -/
def text : Complaint → List Char
  | .help long => (Help.text long).toList
  | .version => Help.version.toList
  | .unknown shown => opening ++ "unexpected argument '".toList ++ Text.plain shown ++ "' found".toList
  | .unneededValue value flag =>
    opening ++ "unexpected value '".toList ++ Text.plain value ++ "' for '".toList ++ flag.toList ++
      "' found; no more were expected".toList
  | .missingValue option =>
    opening ++ "a value is required for '".toList ++ option.toList ++ "' but none was supplied".toList
  | .invalidValue value option =>
    opening ++ "invalid value '".toList ++ Text.plain value ++ "' for '".toList ++ option.toList ++ "'".toList

/-- A text without the openings it starts with. -/
def dropOpenings (chars : List Char) : List Char :=
  if opening.isPrefixOf chars then dropOpenings (chars.drop opening.length) else chars
termination_by chars.length
decreasing_by
  rename_i starts
  have bounded := (List.isPrefixOf_iff_prefix.mp starts).length_le
  have positive : opening.length = 7 := by decide
  simp only [List.length_drop]
  omega

/-- The complaint in one line: the first line of its text, without opening. -/
def summary (complaint : Complaint) : List Char :=
  let shown := Text.lines complaint.text
  Text.trim (dropOpenings (shown.head?.getD []))

end Complaint

end Umpire.Options
