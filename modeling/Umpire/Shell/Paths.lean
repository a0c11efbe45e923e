import Umpire.Shell.Expansion

/-! Words that stand for the paths that fit them. -/

namespace Umpire.Shell

/-- The parts of a marked path between slashes. -/
def components (marked : List Marked) : List (List Marked) :=
  marked.splitOnP fun found => found.1 == '/'

/-- The names in a directory that fit a pattern, in order. -/
def namesThatFit (shell : Session) (part : List Marked) (names : List (List Char)) : List (List Char) :=
  let pattern := Pattern.ofMarked (shell.has "extglob") part
  let showsHidden := shell.has "dotglob" || match part with
    | ('.', _) :: _ => true
    | _ => false
  let fitting := names.filter fun name =>
    (showsHidden || name.head? != some '.') &&
      Pattern.fits shell.isLarge (shell.has "nocaseglob") pattern name
  fitting.mergeSort fun a b => !Bytes.before (octets b) (octets a)

/-- The paths that fit the rest of a pattern, below a path that has been found. -/
def matchBelow : List (List Marked) → List Char → Doing (List (List Char))
  | [], found => return [found]
  | part :: rest, found => do
    let shell ← get
    let below (name : List Char) : List Char := found ++ name ++ (if rest.isEmpty then [] else ['/'])
    if part.isEmpty then matchBelow rest (below [])
    else if !Pattern.isPattern (shell.has "extglob") part then do
      let path := found ++ bare part
      match ← ask (.info (octets path) false) with
      | .error _ => return []
      | .ok _ => matchBelow rest (below (bare part))
    else do
      let directory := if found.isEmpty then ['.'] else found
      match ← ask (.list (octets directory)) with
      | .error _ => return []
      | .ok names =>
        let found ← (namesThatFit shell part (names.map Bytes.toOctets)).mapM fun name => do
          -- Only what is below a directory can be looked for further.
          let path := found ++ name
          if rest.isEmpty then return [path]
          else
            match ← ask (.info (octets path) true) with
            | .ok info => if info.kind = .directory then matchBelow rest (below name) else return []
            | .error _ => return []
        return found.flatten

/-- The paths that a field stands for: those that fit it, or itself if it is no pattern or none
fits. -/
def pathsOf (field : List Marked) : Doing (List (List Char)) := do
  let shell ← get
  if !shell.has "noglob" && Pattern.isPattern (shell.has "extglob") field then
    match ← matchBelow (components field) [] with
    | [] =>
      if shell.has "nullglob" then return []
      else if shell.has "failglob" then refuse (ascii "no match: " ++ bare field) false
      else return [bare field]
    | found => return found
  else return [bare field]

/-- The words that one word as written stands for. -/
def fieldsOfWord (run : Runner) (word : Word) : Doing (List (List Char)) := do
  let shell ← get
  let several := if shell.isLarge && shell.has "braceexpand" then Braces.words word else [word]
  let found ← several.mapM fun one => do
    let marks ← expand run .fields (withHomes shell one)
    let shell ← get
    let paths ← (fieldsOf (separators shell) marks).mapM pathsOf
    return paths.flatten
  return found.flatten

/-- The words that a list of words as written stands for. -/
def fields (run : Runner) (words : List Word) : Doing (List (List Char)) := do
  let found ← words.mapM (fieldsOfWord run)
  return found.flatten

end Umpire.Shell
