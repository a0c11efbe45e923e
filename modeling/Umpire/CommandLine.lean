import Umpire.Fault
import Umpire.Options.Scan

/-! The command line: options, then two hyphens, then the words that name the two sides' programs. -/

namespace Umpire

/-- What a command line says: the options, and the words after the two hyphens if they stand there. -/
structure CommandLine where
  settings : Options.Settings
  command : Option (List Bytes)
  deriving DecidableEq, Repr

namespace CommandLine

/-- The token that ends the options. -/
def optionsEnd : Bytes :=
  Bytes.ofString "--"

/-- Read a command line, whose first token is the program's own name. Without the token that ends
the options only a request for help or version is honoured; with it the options alone are judged. -/
def parse (tokens : List Bytes) : Except Fault CommandLine :=
  let words := tokens.tail
  let options := words.takeWhile (· ≠ optionsEnd)
  match words.dropWhile (· ≠ optionsEnd) with
  | [] =>
    -- Nothing ends the options, so only a request counts.
    match Options.scan words with
    | .error complaint =>
      if complaint.isRequest then .error (.usage complaint) else .error .missingSolutionDelimiter
    | .ok _ => .error .missingSolutionDelimiter
  | _ :: command =>
    match Options.scan options with
    | .error complaint => .error (.usage complaint)
    -- What follows the mark is left to be split.
    | .ok groups => .ok ⟨Options.Settings.ofGroups groups, some command⟩

end CommandLine

end Umpire
