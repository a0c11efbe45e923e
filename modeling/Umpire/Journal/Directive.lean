import Umpire.Journal.Entry
import Umpire.Journal.ValuePattern
import Umpire.Text.Alphanumeric
import Umpire.Text.Lines

/-! Directives of a journal filter: up to which level some entries are admitted. -/

namespace Umpire.Filter

/-- The most that is admitted; none means that nothing is. -/
abbrev Ceiling := Option Level

/-- A field that entries must have, and the value that it is compared with, if any. -/
structure Field where
  name : Bytes
  value : Option Bytes := none
  deriving DecidableEq, Repr

/-- One directive: entries with some start of their topic and some fields are admitted up to a level. -/
structure Directive where
  topic : Option Bytes := none
  /-- The span of work that entries must stand in. -/
  span : Option Bytes := none
  fields : List Field := []
  ceiling : Ceiling := some .trace
  deriving DecidableEq, Repr

/-- The level that a word in any case or a number names; zero and one word name silence. -/
def ceiling? (word : Bytes) : Option Ceiling :=
  let chars := Bytes.toOctets word
  let lowered := chars.map Char.toLower
  let numbered : Option Ceiling := match Numeral.readNat 18446744073709551615 chars with
    | .ok 0 => some none
    | .ok number => (Level.all.find? fun level => level.rank == number).map some
    | .error _ => none
  let named : Option Ceiling :=
    if chars.isEmpty then some (some .error)
    else if lowered == "off".toList then some none
    else (Level.all.find? fun level => level.name.toList == lowered).map some
  numbered.or named

/-- Read a field with or without a value; none if it is empty or its value is malformed. -/
def Field.parse? (text : Bytes) : Option Field :=
  let mark := Bytes.ascii '='
  let name := text.takeWhile (· != mark)
  if text.isEmpty then none
  else
    match text.drop name.length with
    | [] => some ⟨name, none⟩
    | _ :: rest =>
      -- A second equals sign ends the value.
      let value := rest.takeWhile (· != mark)
      if ValuePattern.isWellFormed (Utf8.lossy value) then some ⟨name, some value⟩ else none

/-- How far a directive has been read; the numbers tell where the part that is being read started. -/
inductive Stage where
  | start
  /-- In a word that is a topic or a level. -/
  | word (first : Nat)
  /-- In the name of a span, after its bracket. -/
  | span (first : Nat)
  /-- In a field, after its brace. -/
  | field (first : Nat)
  /-- After a field's closing brace. -/
  | fields
  /-- After a span's closing bracket. -/
  | closed
  /-- In a level, after the equals sign. -/
  | level (first : Nat)
  deriving DecidableEq, Repr

/-- The part of a text between two places. -/
def slice (text : Bytes) (first last : Nat) : Bytes :=
  (text.take last).drop first

/-- Whether a directive can start with a character other than a bracket. -/
def startsWord (c : Char) : Bool :=
  c == '-' || c == ':' || c == '_' || Text.isAlphanumeric c

/-- Read one character at its place in the text; none if it cannot stand there. -/
def Directive.step (text : Bytes) (directive : Directive) (stage : Stage) (place : Nat) (c : Char) :
    Option (Directive × Stage) :=
  match stage with
  | .start =>
    if c == '[' then some (directive, .span (place + 1))
    else if startsWord c then some (directive, .word place)
    else none
  | .word first =>
    let named := { directive with topic := some (slice text first place) }
    if c == '=' then some (named, .level (place + 1))
    else if c == '[' then some (named, .span (place + 1))
    else some (directive, stage)
  | .span first =>
    let name := slice text first place
    if c == ']' then some ({ directive with span := some name }, .closed)
    else if c == '\x7b' then
      let span := if name.isEmpty then none else some name
      some ({ directive with span := span }, .field (place + 1))
    else some (directive, stage)
  | .field first =>
    if c == '\x7d' then
      (Field.parse? (slice text first place)).map fun field =>
        ({ directive with fields := directive.fields ++ [field] }, .fields)
    else some (directive, stage)
  | .fields => if c == ']' then some (directive, .closed) else none
  | .closed => if c == '=' then some (directive, .level (place + 1)) else none
  | .level _ => some (directive, stage)

/-- Read all characters from a place on. -/
def Directive.steps (text : Bytes) (directive : Directive) (stage : Stage) (place : Nat) :
    List Char → Option (Directive × Stage)
  | [] => some (directive, stage)
  | c :: rest =>
    match directive.step text stage place c with
    | none => none
    | some (next, reached) => steps text next reached (place + (String.utf8EncodeChar c).length) rest

/-- What a directive is where its text ends; none if a part of it is missing or its level is none. -/
def Directive.finish (text : Bytes) (directive : Directive) : Stage → Option Directive
  | .word first =>
    -- A lone word is a level if it can be one, and else a topic that is admitted in full.
    match ceiling? (text.drop first) with
    | some ceiling => some { directive with ceiling := ceiling }
    | none => some { directive with topic := some (text.drop first) }
  | .level first =>
    let word := text.drop first
    if word.isEmpty then some directive
    else (ceiling? word).map fun ceiling => { directive with ceiling := ceiling }
  | .closed => some directive
  | .start | .span _ | .field _ | .fields => none

/-- Read one directive; none if it is malformed. White space around it is not read, yet places are
counted from the first character that is read and parts are cut there from the whole text, so that
white space before a directive shifts its parts. -/
def Directive.parse? (chars : List Char) : Option Directive :=
  let text := Bytes.ofChars chars
  match Directive.steps text {} .start 0 (Text.trim chars) with
  | none => none
  | some (directive, stage) => directive.finish text stage

/-- Whether a directive can decide about entries that stand in no span of work: it names no span and
compares no values. -/
def Directive.isStatic (directive : Directive) : Bool :=
  directive.span.isNone && directive.fields.all fun field => field.value.isNone

/-- Whether an entry has the start of a topic and the fields that a directive asks for. Its sentence
counts as a field. -/
def Directive.fits (directive : Directive) (entry : Entry) : Bool :=
  let names := "message" :: entry.fields.map (·.1)
  (directive.topic.all fun topic => topic.isPrefixOf (Bytes.ofString entry.topic)) &&
    directive.fields.all fun field => (names.map Bytes.ofString).contains field.name

/-- The names of the fields that a directive asks for. -/
def Directive.fieldNames (directive : Directive) : List Bytes :=
  directive.fields.map (·.name)

/-- Whether two directives decide about the same entries. -/
def Directive.isAlike (left right : Directive) : Bool :=
  left.topic == right.topic && left.fieldNames == right.fieldNames

/-- How long a directive's topic is, counted so that no topic at all is shorter than an empty one. -/
def Directive.reach (directive : Directive) : Nat :=
  match directive.topic with
  | none => 0
  | some topic => topic.length + 1

/-- Whether one list of names comes before another in the order of words. -/
def precedes : List Bytes → List Bytes → Bool
  | [], [] => false
  | [], _ :: _ => true
  | _ :: _, [] => false
  | a :: left, b :: right => Bytes.before a b || (a == b && precedes left right)

/-- Whether a directive is asked before another: a longer topic first, then more fields, then the one
that comes later in the order of words. -/
def Directive.isAskedBefore (left right : Directive) : Bool :=
  if left.reach != right.reach then right.reach < left.reach
  else if left.fields.length != right.fields.length then right.fields.length < left.fields.length
  else if left.topic != right.topic then Bytes.before (right.topic.getD []) (left.topic.getD [])
  else precedes right.fieldNames left.fieldNames

end Umpire.Filter
