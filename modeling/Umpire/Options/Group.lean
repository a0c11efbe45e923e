import Umpire.Journal.Verbosity
import Umpire.Text.Bytes

/-! Option groups: the units that an option list is made of, how each is written, what each sets. -/

namespace Umpire.Options

/-- The options that name a file. -/
inductive FileOption where
  | input
  | output
  | solutionStderr
  | interactorStderr
  deriving DecidableEq, Repr

/-- The letter of an option that names a file. -/
def FileOption.letter : FileOption → Char
  | .input => 'i'
  | .output => 'o'
  | .solutionStderr => 'e'
  | .interactorStderr => 'E'

/-- The option that names a file by a given letter. -/
def FileOption.ofLetter? (byte : UInt8) : Option FileOption :=
  [FileOption.input, .output, .solutionStderr, .interactorStderr].find? fun option =>
    Bytes.ascii option.letter == byte

/-- Where an option's value stands. -/
inductive ValueForm where
  /-- In the option's token, right after its name. -/
  | attached
  /-- In the option's token, after an equals sign. -/
  | equals
  /-- In the token after the option's. -/
  | separate
  deriving DecidableEq, Repr

/-- One unit of an option list. -/
inductive Group where
  /-- One or more flags `v` in one token, `more` of them after the first. -/
  | verbose (more : Nat)
  /-- An option that names a file, after `flags` flags `v` in the same token. -/
  | file (flags : Nat) (option : FileOption) (form : ValueForm) (value : Bytes)
  /-- The level option, whose value stands after an equals sign or in a token of its own. -/
  | level (separate : Bool) (chosen : Level)
  deriving DecidableEq, Repr

/-- The name of the level option. -/
def levelName : Bytes :=
  Bytes.ofString "--log-level"

/-- The start of a token that holds `flags` flags `v`. -/
def cluster (flags : Nat) : Bytes :=
  Bytes.ascii '-' :: List.replicate flags (Bytes.ascii 'v')

/-- The tokens that spell a group. -/
def Group.tokens : Group → List Bytes
  | .verbose more => [cluster (more + 1)]
  | .file flags option .attached value => [cluster flags ++ Bytes.ascii option.letter :: value]
  | .file flags option .equals value =>
    [cluster flags ++ Bytes.ascii option.letter :: Bytes.ascii '=' :: value]
  | .file flags option .separate value => [cluster flags ++ [Bytes.ascii option.letter], value]
  | .level false chosen => [levelName ++ Bytes.ascii '=' :: Bytes.ofString chosen.name]
  | .level true chosen => [levelName, Bytes.ofString chosen.name]

/-- Whether the tokens of a group read back as it: values are not empty, and an equals sign right
after an option's letter is never part of its value. -/
def Group.WellFormed : Group → Prop
  | .verbose _ => True
  | .file _ _ .attached value => value ≠ [] ∧ value.head? ≠ some (Bytes.ascii '=')
  | .file _ _ _ value => value ≠ []
  | .level _ _ => True

instance (group : Group) : Decidable group.WellFormed := by
  cases group with
  | verbose => exact inferInstanceAs (Decidable True)
  | file _ _ form _ => cases form <;> unfold Group.WellFormed <;> infer_instance
  | level => exact inferInstanceAs (Decidable True)

/-- What the options of a command line say. -/
structure Settings where
  input : Option Bytes := none
  output : Option Bytes := none
  solutionStderr : Option Bytes := none
  interactorStderr : Option Bytes := none
  verbose : Bool := false
  level : Option Level := none
  deriving DecidableEq, Repr

/-- The settings with the file of one option replaced. -/
def Settings.setFile (settings : Settings) (option : FileOption) (path : Bytes) : Settings :=
  match option with
  | .input => { settings with input := some path }
  | .output => { settings with output := some path }
  | .solutionStderr => { settings with solutionStderr := some path }
  | .interactorStderr => { settings with interactorStderr := some path }

/-- The settings after one more group; a repeated option keeps its last value. -/
def Settings.apply (settings : Settings) : Group → Settings
  | .verbose _ => { settings with verbose := true }
  | .file flags option _ value =>
    let flagged := if flags = 0 then settings else { settings with verbose := true }
    flagged.setFile option value
  | .level _ chosen => { settings with level := some chosen }

/-- The settings that a list of groups makes. -/
def Settings.ofGroups (groups : List Group) : Settings :=
  groups.foldl Settings.apply {}

end Umpire.Options
