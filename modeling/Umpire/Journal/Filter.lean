import Umpire.Journal.Directive

/-! Journal filters: directives, separated by commas, the most specific of which decides. -/

namespace Umpire.Filter

/-- The parts of a text between commas, empty ones left out. -/
def parts (chars : List Char) : List (List Char) :=
  (chars.splitOn ',').filter (!·.isEmpty)

/-- Read a filter; none if a directive is malformed. A filter without directives admits errors. -/
def parse (chars : List Char) : Option (List Directive) := do
  let directives ← (parts chars).mapM Directive.parse?
  return if directives.isEmpty then [{ ceiling := some .error }] else directives

/-- The filter that a variable of the environment sets: information and what is more important, if
the variable is unset or malformed. -/
def ofEnvironment (value : Option (List Char)) : List Directive :=
  (value.bind parse).getD [{ ceiling := some .info }]

/-- Put a directive before the first that is asked after it; it replaces one that it is alike to. -/
def insert (directive : Directive) : List Directive → List Directive
  | [] => [directive]
  | first :: rest =>
    if directive.isAlike first then directive :: rest
    else if directive.isAskedBefore first then directive :: first :: rest
    else first :: insert directive rest

/-- The directives that can decide about entries in the order in which they are asked. Those that ask
for fields are put in after the others. -/
def ranked (directives : List Directive) : List Directive :=
  let able := directives.filter Directive.isStatic
  let (plain, fielded) := able.partition fun directive => directive.fields.isEmpty
  (plain ++ fielded).foldl (fun held directive => insert directive held) []

/-- Whether an entry passes: the first directive that it fits decides, and an entry that fits none
does not pass. -/
def admits (directives : List Directive) (entry : Entry) : Bool :=
  match (ranked directives).find? fun directive => directive.fits entry with
  | some directive => directive.ceiling.any fun ceiling => ceiling.admits entry.level
  | none => false

end Umpire.Filter
