import Umpire.Options.Complaint
import Umpire.Options.Group
import Umpire.Text.Utf8

/-! Reading an option list from left to right into its groups. -/

namespace Umpire.Options

/-- An option whose value stands in a token of its own and has not been judged yet. A file option
takes the next token whatever it is; the level option takes it only if it is no option itself. -/
inductive Pending where
  | file (flags : Nat) (option : FileOption) (value : Option Bytes)
  | level (value : Option Bytes)
  deriving DecidableEq, Repr

/-- A file option as complaints show it. -/
def FileOption.shown (option : FileOption) : String :=
  String.ofList ['-', option.letter] ++ " <FILE>"

/-- The level option as complaints show it. -/
def levelShown : String :=
  "--log-level <LEVEL>"

/-- The group of a file option with a value, which must not be empty. -/
def fileGroup (flags : Nat) (option : FileOption) (form : ValueForm) (value : Bytes) :
    Except Complaint Group :=
  if value.isEmpty then .error (.missingValue option.shown)
  else .ok (.file flags option form value)

/-- The group of the level option with a value, which must name a level exactly. -/
def levelGroup (separate : Bool) (value : Bytes) : Except Complaint Group :=
  match Level.all.find? fun level => Bytes.ofString level.name == value with
  | some chosen => .ok (.level separate chosen)
  | none =>
    if value.isEmpty then .error (.missingValue levelShown)
    else .error (.invalidValue (Utf8.lossy value) levelShown)

/-- The group of an option that was left pending, now that no value can follow any more. -/
def settle : Option Pending → Except Complaint (List Group)
  | none => .ok []
  | some (.file flags option value) => do return [← fileGroup flags option .separate (value.getD [])]
  | some (.level value) => do return [← levelGroup true (value.getD [])]

/-- How a token looks, apart from what stands before it. -/
inductive Shape where
  /-- Two hyphens, a name, and a value after the first equals sign. -/
  | long (name : Bytes) (value : Option Bytes)
  /-- One hyphen and letters. -/
  | short (letters : Bytes)
  /-- Anything else, a single hyphen included. -/
  | word
  deriving DecidableEq, Repr

/-- The shape of a token. -/
def Shape.of (token : Bytes) : Shape :=
  match token with
  | [] => .word
  | first :: rest =>
    if first != Bytes.ascii '-' then .word
    else
      -- A lone hyphen is a word.
      match rest with
      | [] => .word
      | second :: name =>
        if second != Bytes.ascii '-' then .short rest
        else
          -- The first equals sign ends the name.
          match name.dropWhile (· != Bytes.ascii '=') with
          | [] => .long name none
          | _ :: value => .long (name.takeWhile (· != Bytes.ascii '=')) (some value)

/-- What one token adds: the groups it completes, and the option it leaves pending. -/
abbrev Progress := Except Complaint (List Group × Option Pending)

/-- The letters of a token from the first that is no flag `v`, after `flags` such flags. -/
def stepLetters (pending : Option Pending) (flags : Nat) : Bytes → Progress
  | [] => do return ((← settle pending) ++ [.verbose (flags - 1)], none)
  | letter :: rest =>
    match FileOption.ofLetter? letter with
    | some option => do
      let settled ← settle pending
      match rest with
      | [] => return (settled, some (.file flags option none))
      | first :: tail =>
        if first == Bytes.ascii '=' then return (settled ++ [← fileGroup flags option .equals tail], none)
        else return (settled ++ [← fileGroup flags option .attached rest], none)
    | none =>
      if letter == Bytes.ascii 'h' then do
        let _ ← settle pending
        throw (.help false)
      else if letter == Bytes.ascii 'V' then do
        let _ ← settle pending
        throw .version
      else do
        -- Flags before the unknown letter have already closed the pending option.
        let _ ← if flags = 0 then pure [] else settle pending
        match (Utf8.piece letter rest).1 with
        | .char c => throw (.unknown ['-', c])
        | .broken _ => throw (.unknown ('-' :: Utf8.lossy (letter :: rest)))

/-- What a token of one hyphen and letters adds. -/
def stepShort (pending : Option Pending) (letters : Bytes) : Progress :=
  let isFlag (byte : UInt8) := byte == Bytes.ascii 'v'
  stepLetters pending (letters.takeWhile isFlag).length (letters.dropWhile isFlag)

/-- What a token of two hyphens, a name and perhaps a value adds. -/
def stepLong (pending : Option Pending) (name : Bytes) (value : Option Bytes) : Progress :=
  let request (flag : String) (complaint : Complaint) : Progress :=
    match value with
    | some given => .error (.unneededValue (Utf8.lossy given) flag)
    | none => do
      -- An option that still waits for its value comes to its fault before the request is met.
      let _ ← settle pending
      throw complaint
  if name = Bytes.ofString "help" then request "--help" (.help true)
  else if name = Bytes.ofString "version" then request "--version" .version
  else if name = Bytes.ofString "log-level" then
    match value with
    | some given => do return ((← settle pending) ++ [← levelGroup false given], none)
    | none => do return (← settle pending, some (.level none))
  else .error (.unknown ('-' :: '-' :: Utf8.lossy name))

/-- What one token adds after an option that may be pending. -/
def step (pending : Option Pending) (token : Bytes) : Progress :=
  match pending with
  -- A file may have any name, so even a token that looks like an option is taken.
  | some (.file flags option none) => .ok ([], some (.file flags option (some token)))
  | _ =>
    match Shape.of token with
    | .long name value => stepLong pending name value
    | .short letters => stepShort pending letters
    | .word =>
      -- A word can only be a value; nothing else stands among the options.
      match pending with
      | some (.level none) => .ok ([], some (.level (some token)))
      | _ => .error (.unknown (Utf8.lossy token))

/-- The groups of an option list, or the first complaint about it. -/
def scanFrom (pending : Option Pending) : List Bytes → Except Complaint (List Group)
  | [] => settle pending
  | token :: rest => do
    let (groups, next) ← step pending token
    return groups ++ (← scanFrom next rest)

/-- The groups of a whole option list. -/
def scan (tokens : List Bytes) : Except Complaint (List Group) :=
  scanFrom none tokens

end Umpire.Options
