import Umpire.CommandLine
import Umpire.Placeholder

/-! A contest: the two programs that run against each other and the files they are given. -/

namespace Umpire

/-- What a side runs. A stream without a file is joined to the other side, or, for standard error,
shared with the umpire. -/
structure Contestant where
  /-- The program and its arguments. -/
  words : List Bytes
  stdin : Option Bytes := none
  stdout : Option Bytes := none
  stderr : Option Bytes := none
  deriving DecidableEq, Repr

namespace Contestant

/-- The program to run. -/
def program (contestant : Contestant) : Bytes :=
  contestant.words.headD []

/-- The arguments of the program. -/
def args (contestant : Contestant) : List Bytes :=
  contestant.words.tail

/-- The contestant with its placeholders replaced by the number of its private descriptor. -/
def bind (contestant : Contestant) (fd : Int32) : Contestant :=
  { contestant with words := Placeholder.substitute contestant.words fd }

end Contestant

/-- A contest as the command line sets it up. -/
structure Contest where
  contestants : PerSide Contestant
  verbose : Bool
  level : Option Level
  deriving DecidableEq, Repr

namespace Contest

/-- The word that separates the two sides' words. -/
def sidesMark : Bytes :=
  Bytes.ofString "="

/-- The words of the two sides: those before the first separating word and those after it. -/
def split (command : List Bytes) : Except Fault (List Bytes × List Bytes) :=
  match command.dropWhile (· ≠ sidesMark) with
  | [] => .error .missingInteractorDelimiter
  | _ :: interactor =>
    let solution := command.takeWhile (· ≠ sidesMark)
    if solution.isEmpty then .error .noSolutionArgs
    else if interactor.isEmpty then .error .noInteractorArgs
    else .ok (solution, interactor)

/-- The contest that a command line sets up. The two sides share the input and the output file: what
one reads from, the other writes to. -/
def ofCommandLine (line : CommandLine) : Except Fault Contest :=
  match line.command with
  | none => .error .missingSolutionDelimiter
  | some command =>
    match split command with
    | .error fault => .error fault
    | .ok (solution, interactor) =>
      let settings := line.settings
      .ok {
        contestants := {
          -- One file is read by one side and written by the other.
          solution := ⟨solution, settings.input, settings.output, settings.solutionStderr⟩
          interactor := ⟨interactor, settings.output, settings.input, settings.interactorStderr⟩
        }
        verbose := settings.verbose
        level := settings.level
      }

/-- The contest that a list of tokens sets up, the program's own name first. -/
def load (tokens : List Bytes) : Except Fault Contest :=
  match CommandLine.parse tokens with
  | .error fault => .error fault
  | .ok line => ofCommandLine line

/-- What a side runs. -/
def contestant (contest : Contest) (side : Side) : Contestant :=
  contest.contestants.get side

/-- Whether what the solution writes goes straight to the interactor. -/
def joinsSolutionToInteractor (contest : Contest) : Bool :=
  contest.contestants.solution.stdout.isNone

/-- Whether what the interactor writes goes straight to the solution. -/
def joinsInteractorToSolution (contest : Contest) : Bool :=
  contest.contestants.solution.stdin.isNone

end Contest

end Umpire
