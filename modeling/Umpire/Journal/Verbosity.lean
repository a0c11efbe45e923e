import Umpire.Text.Lines
import Umpire.Text.LowerCase

/-! Levels of importance that journal entries have, and which of them a journal is kept at: by option, by flag, by the
environment, or by default. -/

namespace Umpire

/-- How important a journal entry is; the first is the most important. -/
inductive Level where
  | error
  | warn
  | info
  | debug
  | trace
  deriving DecidableEq, Repr

namespace Level

/-- All levels, the most important first. -/
def all : List Level :=
  [.error, .warn, .info, .debug, .trace]

/-- The level's place among all, counted from one. -/
def rank : Level → Nat
  | .error => 1
  | .warn => 2
  | .info => 3
  | .debug => 4
  | .trace => 5

/-- Whether a journal kept at this level has entries of the other. -/
def admits (kept entry : Level) : Bool :=
  entry.rank ≤ kept.rank

/-- The word for the level as options spell it. -/
def name : Level → String
  | .error => "error"
  | .warn => "warn"
  | .info => "info"
  | .debug => "debug"
  | .trace => "trace"

/-- The word for the level as journals print it. -/
def label : Level → String
  | .error => "ERROR"
  | .warn => "WARN"
  | .info => "INFO"
  | .debug => "DEBUG"
  | .trace => "TRACE"

/-- The level with a given name. -/
def ofName? (name : List Char) : Option Level :=
  all.find? fun level => level.name.toList == name

end Level

end Umpire

namespace Umpire.Verbosity

/-- The words by which the environment names a level; one level has two. -/
def words : List (String × Level) :=
  [("error", .error), ("warn", .warn), ("warning", .warn), ("info", .info), ("debug", .debug),
    ("trace", .trace)]

/-- The level that a value of the environment names, white space around it and case aside. -/
def ofEnvironment? (value : List Char) : Option Level :=
  let word := Text.toLower (Text.trim value)
  (words.find? fun entry => entry.1.toList == word).map (·.2)

/-- The level of a journal: that of the option, else the one that the flag means, else the one that
the environment names, else warnings. -/
def resolve (option : Option Level) (verbose : Bool) (environment : Option (List Char)) : Level :=
  match option with
  | some level => level
  | none =>
    if verbose then .info
    else (environment.bind ofEnvironment?).getD .warn

end Umpire.Verbosity
