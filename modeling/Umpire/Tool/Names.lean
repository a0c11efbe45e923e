import Umpire.Tool.Mode
import Umpire.Tool.Words

/-! Programs of the host that make, move, copy and remove what is under names. -/

namespace Umpire.Tool

open Host

/-- Complain that something cannot be done with a path; the answer is the program's code. -/
def cannot (doing : String) (path : Bytes) (errno : Errno) : Talk Nat := do
  complain (bytes doing ++ bytes " " ++ quoted path ++ bytes ": " ++ bytes errno.usual)
  return 1

/-- Complain in the name of a program; the answer is its code. -/
def failing (reason : Bytes) : Talk Nat := do
  complain reason
  return 1

/-- The path of a file in a directory. -/
def inside (directory name : Bytes) : Bytes :=
  if directory.getLast? == some (Bytes.ascii '/') then directory ++ name
  else directory ++ Bytes.ascii '/' :: name

/-- Whether a path leads to a directory. -/
def isDirectory (path : Bytes) : Talk Bool := do
  match ← call (.info path true) with
  | .ok info => return info.kind == .directory
  | .error _ => return false

/-- Ask a question and read the answer; whether it is yes. -/
def agrees (question : Bytes) : Talk Bool := do
  let _ ← writeAll 2 ((← ownName) ++ bytes ": " ++ question ++ bytes "? ")
  let answer := (← readLine 0).toOption.getD []
  return answer.head? == some (Bytes.ascii 'y') || answer.head? == some (Bytes.ascii 'Y')

/-- Whether something may be put in the place of what is there, which is asked for if wanted. -/
def mayReplace (chosen : Chosen) (doing : String) (target : Bytes) (isThere : Bool) : Talk Bool :=
  if chosen.last? "fin" == some 'i' && isThere then agrees (bytes doing ++ bytes " " ++ quoted target)
  else return true

/-- The permission bits that new files do not get. -/
def maskOf : Talk Nat := do
  let mask ← call (.setMask 0o022)
  let _ ← call (.setMask mask)
  return mask

/-- Do something with sources and the place that each of them goes to: a name, or the directory that comes
last, in which each keeps its own name. -/
def toTarget (chosen : Chosen) (step : Bytes → Bytes → Talk Nat) : Talk Nat := do
  let below (directory : Bytes) (sources : List Bytes) : Talk Nat :=
    eachWord sources fun source => step source (inside directory (lastName source))
  match chosen.text? 't', chosen.words with
  | _, [] => misuse (bytes "missing file operand") 1
  | some directory, sources =>
    match ← call (.info directory true) with
    | .error errno => failing (bytes "target directory " ++ quoted directory ++ bytes ": " ++ bytes errno.usual)
    | .ok info =>
      if info.kind == .directory then below directory sources
      else
        failing (bytes "target directory " ++ quoted directory ++ bytes ": " ++
          bytes Errno.notDirectory.usual)
  | none, [only] => misuse (bytes "missing destination file operand after " ++ quoted only) 1
  | none, words =>
    let target := words.getLastD []
    let isBelow ← if chosen.has 'T' then pure false else isDirectory target
    match isBelow, words with
    | true, _ => below target words.dropLast
    | false, [source, _] => step source target
    | false, _ =>
      if chosen.has 'T' then misuse (bytes "extra operand " ++ quoted ((words.drop 2).headD [])) 1
      else
        let reason := match ← call (.info target true) with
          | .error errno => errno
          | .ok _ => Errno.notDirectory
        failing (bytes "target " ++ quoted target ++ bytes ": " ++ bytes reason.usual)

/-- Tell how something goes from one path to another. -/
def tellWay (start : String) (source : Bytes) (arrow : String) (target : Bytes) : Talk Unit := do
  let _ ← print (bytes start ++ quoted source ++ bytes arrow ++ quoted target ++ [lineEnd])

/-- Move files. -/
def mv (words : List Bytes) : Talk Nat :=
  let known : Known := {
    letters := "finTt:uv"
    long := [("force", 'f'), ("interactive", 'i'), ("no-clobber", 'n'), ("no-target-directory", 'T'),
      ("target-directory", 't'), ("update", 'u'), ("verbose", 'v')] }
  withOptions known words fun chosen =>
    toTarget chosen fun source target => do
      match ← call (.info source false), ← call (.info target false) with
      | .error errno, _ => cannot "cannot stat" source errno
      | .ok found, there =>
        let both := quoted source ++ bytes " and " ++ quoted target
        let sameFile : Bool := match there with
          | .ok other => other.identity == found.identity
          | .error _ => false
        let refusal : Option Bytes := match there with
          | .ok other =>
            if chosen.last? "fn" == some 'n' then some (bytes "not replacing " ++ quoted target)
            else if sameFile then some (both ++ bytes " are the same file")
            else if other.kind == .directory && found.kind != .directory then
              some (bytes "cannot overwrite directory " ++ quoted target ++ bytes " with non-directory")
            else if other.kind != .directory && found.kind == .directory then
              some (bytes "cannot overwrite non-directory " ++ quoted target ++ bytes " with directory " ++
                quoted source)
            else none
          | .error _ => none
        match refusal with
        | some reason => failing reason
        | none =>
          let isThere := there.toOption.isSome
          if !(← mayReplace chosen "overwrite" target isThere) then return 1
          match ← call (.rename source target) with
          | .ok () =>
            if chosen.has 'v' then tellWay "renamed " source " -> " target
            return 0
          | .error errno =>
            failing (if errno = Errno.invalid then
                bytes "cannot move " ++ quoted source ++ bytes " to a subdirectory of itself, " ++ quoted target
              else bytes "cannot move " ++ quoted source ++ bytes " to " ++ quoted target ++ bytes ": " ++
                bytes errno.usual)

/-- How files are copied. -/
structure Copying where
  deep : Bool
  /-- Whether links are copied as such. -/
  links : Bool
  keepsMode : Bool
  /-- Whether what is in the way is removed if it cannot be written to. -/
  force : Bool
  never : Bool
  /-- Whether it is asked before anything is written over. -/
  asks : Bool
  told : Bool
  mask : Nat

/-- Copy the bytes of a file. -/
def copyData (how : Copying) (source target : Bytes) (mode : Nat) (isNew : Bool) : Talk Nat := do
  match ← call (.openFile source Access.reading false) with
  | .error errno =>
    failing (bytes "cannot open " ++ quoted source ++ bytes " for reading: " ++ bytes errno.usual)
  | .ok fd =>
    let opened ← do
      match ← call (.openFile target Access.writing false), how.force with
      | .error _, true =>
        let _ ← call (.remove target)
        call (.openFile target Access.writing false)
      | result, _ => pure result
    match opened with
    | .error errno => cannot "cannot create regular file" target errno
    | .ok out =>
      if how.told then tellWay "" source " -> " target
      let result ← readPieces fd (writeAll out) mostPieces
      let _ ← call (.close out)
      let _ ← call (.close fd)
      if how.keepsMode then
        let _ ← call (.setMode target mode)
      else if isNew then
        let _ ← call (.setMode target (Mode.without mode how.mask))
      match result with
      | .ok () => return 0
      | .error errno => cannot "error copying" source errno

/-- Copy what is under a path to another one, with all below it down to a depth. -/
def copyTree (how : Copying) : Nat → Bool → Bytes → Bytes → Talk Nat
  | 0, _, source, _ => cannot "cannot access" source Errno.linkLoop
  | depth + 1, isTop, source, target => do
    let follow := !how.links
    match ← call (.info source follow), ← call (.info target follow) with
    | .error errno, _ => cannot "cannot stat" source errno
    | .ok found, there =>
      let isNew := match there with
        | .ok _ => false
        | .error _ => true
      let other : Option Info := there.toOption
      if other.any fun known => known.identity = found.identity then
        failing (quoted source ++ bytes " and " ++ quoted target ++ bytes " are the same file")
      else if found.kind == .directory then
        if !how.deep then failing (bytes "-r not specified; omitting directory " ++ quoted source)
        else if other.any fun known => known.kind != .directory then
          failing (bytes "cannot overwrite non-directory " ++ quoted target ++ bytes " with directory " ++
            quoted source)
        else
          let made ← if isNew then call (.create target .directory 0o777) else pure (.ok ())
          let names ← call (.list source)
          match names, made with
          | _, .error errno => cannot "cannot create directory" target errno
          | .error errno, _ => cannot "cannot access" source errno
          | .ok names, .ok () =>
            let own := (← call (.info target true)).toOption
            if how.told && isNew then tellWay "" source " -> " target
            let code ← eachWord names fun name => do
              let inner ← call (.info (inside source name) false)
              -- The copy itself is not copied.
              if isTop && isNew && (inner.toOption.map (·.identity)) == own.map (·.identity) then
                failing (bytes "cannot copy a directory, " ++ quoted source ++ bytes ", into itself, " ++
                  quoted target)
              else copyTree how depth false (inside source name) (inside target name)
            let _ ← call (.setMode target (if how.keepsMode then found.mode else Mode.without found.mode how.mask))
            return code
      else if other.any fun known => known.kind == .directory then
        failing (bytes "cannot overwrite directory " ++ quoted target ++ bytes " with non-directory")
      else if how.never && !isNew then return 0
      else if ← pure (how.asks && !isNew) <&&> not <$> agrees (bytes "overwrite " ++ quoted target) then return 1
      else if found.kind == .link then
        let _ ← call (.remove target)
        match ← call (.readLink source) with
        | .error errno => cannot "cannot read symbolic link" source errno
        | .ok leads =>
          match ← call (.create target (.link leads) 0o777) with
          | .ok () => return 0
          | .error errno => cannot "cannot create symbolic link" target errno
      else if found.kind == .fifo && how.deep then
        match ← call (.create target .fifo (Mode.without found.mode how.mask)) with
        | .ok () => return 0
        | .error errno => cannot "cannot create fifo" target errno
      else copyData how source target found.mode isNew

/-- Copy files. -/
def cp (words : List Bytes) : Talk Nat :=
  let known : Known := {
    letters := "adfHilLnPpRrsTt:uvx"
    long := [("archive", 'a'), ("force", 'f'), ("dereference", 'L'), ("no-clobber", 'n'), ("no-dereference", 'P'),
      ("preserve", 'p'), ("recursive", 'r'), ("no-target-directory", 'T'), ("target-directory", 't'),
      ("verbose", 'v')] }
  withOptions known words fun chosen => do
    let deep := chosen.has 'r' || chosen.has 'R' || chosen.has 'a'
    let how : Copying := {
      deep
      links := match chosen.last? "adHLP" with
        | some 'H' | some 'L' => false
        | some _ => true
        | none => deep
      keepsMode := chosen.has 'p' || chosen.has 'a'
      force := chosen.has 'f'
      never := chosen.last? "in" == some 'n'
      asks := chosen.last? "in" == some 'i'
      told := chosen.has 'v'
      mask := ← maskOf }
    if chosen.has 'n' then
      complain (bytes ("warning: behavior of -n is non-portable and may change in future; " ++
        "use --update=none instead"))
    toTarget chosen (copyTree how 64 true)

/-- How things are removed. -/
structure Removing where
  deep : Bool
  /-- Whether empty directories are removed as well. -/
  empty : Bool
  force : Bool
  /-- Whether it is asked before anything is removed. -/
  asks : Bool
  told : Bool

/-- What kind of thing a path leads to, in words. -/
def kindShown (info : Info) : String :=
  match info.kind with
  | .file => if info.size = 0 then "regular empty file" else "regular file"
  | .directory => "directory"
  | .fifo => "fifo"
  | .link => "symbolic link"
  | .device => "character special file"

/-- Remove what is under a path, with all below it down to a depth. -/
def removeTree (how : Removing) : Nat → Bytes → Talk Nat
  | 0, path => cannot "cannot remove" path Errno.notEmpty
  | depth + 1, path => do
    let refused (errno : Errno) : Talk Nat := do
      if how.force && (errno = Errno.noEntry || errno = Errno.notDirectory) then return 0
      else cannot "cannot remove" path errno
    match ← call (.info path false) with
    | .error errno => refused errno
    | .ok info =>
      let isDirectory := info.kind == .directory
      let agreed (doing : String) : Talk Bool :=
        if how.asks then agrees (bytes doing ++ bytes " " ++ quoted path) else return true
      if isDirectory && !how.deep && !how.empty then refused Errno.isDirectory
      else
        let isFull ← do
          match isDirectory && how.deep, ← call (.list path) with
          | true, .ok names => pure (!names.isEmpty)
          | _, _ => pure false
        if !(← if isFull then agreed "descend into directory" else pure true) then return 0
        let code ← do
          match isDirectory && how.deep, ← call (.list path) with
          | true, .ok names => eachWord names fun name => removeTree how depth (inside path name)
          | _, _ => pure 0
        if code != 0 then return code
        else if !(← agreed ("remove " ++ kindShown info)) then return 0
        else
          match ← if isDirectory then call (.removeDirectory path) else call (.remove path) with
          | .error errno => refused errno
          | .ok () =>
            if how.told then
              print (bytes (if isDirectory then "removed directory " else "removed ") ++ quoted path ++ [lineEnd])
            else return 0

/-- Remove files, and directories if wanted. -/
def rm (words : List Bytes) : Talk Nat :=
  let known : Known := {
    letters := "dfiIrRv"
    long := [("dir", 'd'), ("force", 'f'), ("recursive", 'r'), ("verbose", 'v')] }
  withOptions known words fun chosen => do
    let how : Removing := {
      deep := chosen.has 'r' || chosen.has 'R'
      empty := chosen.has 'd'
      force := chosen.has 'f'
      asks := chosen.last? "fi" == some 'i'
      told := chosen.has 'v' }
    if chosen.words.isEmpty && !how.force then lacksOperand
    else
      eachWord chosen.words fun path => do
        let name := lastName path
        if how.deep && name = bytes "/" then
          complain (bytes "it is dangerous to operate recursively on " ++ quoted path)
          failing (bytes "use --no-preserve-root to override this failsafe")
        else if how.deep && (name = bytes "." || name = bytes "..") then
          failing (bytes "refusing to remove '.' or '..' directory: skipping " ++ quoted path)
        else removeTree how 64 path

/-- Remove what a path leads to, which is no directory. -/
def unlink (words : List Bytes) : Talk Nat :=
  withOptions { letters := "" } words fun chosen => do
    match chosen.words with
    | [] => lacksOperand
    | [path] =>
      match ← call (.remove path) with
      | .ok () => return 0
      | .error errno => cannot "cannot unlink" path errno
    | _ :: second :: _ => extraOperand second 1

/-- The paths of the directories on the way to a path, itself included. -/
def ways (path : Bytes) : List Bytes :=
  let names := path.splitOn (Bytes.ascii '/')
  let all := (List.range names.length).map fun count => [Bytes.ascii '/'].intercalate (names.take (count + 1))
  (all.zip names).filterMap fun (way, name) => if name.isEmpty then none else some way

/-- Remove directories, and those they are in if wanted. -/
def rmdir (words : List Bytes) : Talk Nat :=
  let known : Known := {
    letters := "pv#"
    long := [("parents", 'p'), ("verbose", 'v'), ("ignore-fail-on-non-empty", '#')] }
  withOptions known words fun chosen => do
    let tell (path : Bytes) : Talk Unit := do
      if chosen.has 'v' then
        let _ ← print (bytes "rmdir: removing directory, " ++ quoted path ++ [lineEnd])
    let judged (start : String) (path : Bytes) (errno : Errno) : Talk Nat := do
      if chosen.has '#' && errno = Errno.notEmpty then return 0 else cannot start path errno
    let rec above : List Bytes → Talk Nat
      | [] => return 0
      | path :: rest => do
        tell path
        match ← call (.removeDirectory path) with
        | .ok () => above rest
        | .error errno => judged "failed to remove directory" path errno
    if chosen.words.isEmpty then lacksOperand
    else
      eachWord chosen.words fun path => do
        tell path
        match ← call (.removeDirectory path) with
        | .error errno => judged "failed to remove" path errno
        | .ok () => if chosen.has 'p' then above (ways path).dropLast.reverse else return 0

/-- The permission bits that an option asks for, of the usual ones. -/
def wantedMode (chosen : Chosen) (isDirectory : Bool) (usual mask : Nat) : Except Bytes (Option Nat) :=
  match chosen.text? 'm' with
  | none => .ok none
  | some word =>
    match Mode.changed isDirectory mask usual (Bytes.toOctets word) with
    | .ok mode => .ok (some mode)
    | .error _ => .error word

/-- Give a new thing the permission bits that were asked for. -/
def grant (path : Bytes) : Option Nat → Talk Unit
  | none => return ()
  | some mode => do
    let _ ← call (.setMode path mode)

/-- Make directories, and those on the way to them if wanted. -/
def mkdir (words : List Bytes) : Talk Nat :=
  let known : Known := {
    letters := "m:pvZ"
    long := [("mode", 'm'), ("parents", 'p'), ("verbose", 'v')] }
  withOptions known words fun chosen => do
    let tell (path : Bytes) : Talk Unit := do
      if chosen.has 'v' then
        let _ ← print (bytes "mkdir: created directory " ++ quoted path ++ [lineEnd])
    let notMade (path : Bytes) (errno : Errno) : Talk Nat :=
      failing (bytes "cannot create directory " ++ cited path ++ bytes ": " ++ bytes errno.usual)
    let rec onTheWay : List Bytes → Talk Nat
      | [] => return 0
      | way :: rest => do
        match ← call (.create way .directory 0o777) with
        | .ok () =>
          tell way
          if rest.isEmpty then
            if let .ok mode := wantedMode chosen true 0o777 (← maskOf) then grant way mode
          onTheWay rest
        | .error errno =>
          if ← isDirectory way then onTheWay rest
          else
            let shown := if errno = Errno.alreadyThere && !rest.isEmpty then Errno.notDirectory else errno
            notMade way shown
    match chosen.words, wantedMode chosen true 0o777 (← maskOf) with
    | [], _ => lacksOperand
    | _, .error word => failing (bytes "invalid mode " ++ cited word)
    | paths, .ok mode =>
      eachWord paths fun path => do
        if chosen.has 'p' then onTheWay (ways path)
        else
          match ← call (.create path .directory 0o777) with
          | .ok () =>
            tell path
            grant path mode
            return 0
          | .error errno => notMade path errno

/-- Make named pipes. -/
def mkfifo (words : List Bytes) : Talk Nat :=
  withOptions { letters := "m:Z", long := [("mode", 'm')] } words fun chosen => do
    match chosen.words, wantedMode chosen false 0o666 (← maskOf) with
    | [], _ => lacksOperand
    | _, .error _ => failing (bytes "invalid mode")
    | paths, .ok mode =>
      eachWord paths fun path => do
        match ← call (.create path .fifo 0o666) with
        | .ok () =>
          grant path mode
          return 0
        | .error errno => cannot "cannot create fifo" path errno

/-- Make files that do not exist yet. -/
def touch (words : List Bytes) : Talk Nat :=
  let known : Known := {
    letters := "acd:fhmr:t:"
    long := [("no-create", 'c'), ("date", 'd'), ("no-dereference", 'h'), ("reference", 'r'), ("time", 't')] }
  withOptions known words fun chosen => do
    let isTime (text : Bytes) : Bool :=
      let parts := (Bytes.toOctets text).splitOn '.'
      let sizes := parts.map List.length
      (parts.all fun part => part.all Char.isDigit) &&
        ([8, 10, 12].any fun size => sizes == [size] || sizes == [size, 2])
    if let some text := (chosen.text? 't').filter fun text => !isTime text then
      return ← failing (bytes "invalid date format " ++ cited text)
    if chosen.words.isEmpty then misuse (bytes "missing file operand") 1
    else
      eachWord chosen.words fun path => do
        match ← call (.info path true), chosen.has 'c' with
        | .ok _, _ => return 0
        | .error errno, true =>
          if errno = Errno.noEntry then return 0 else cannot "setting times of" path errno
        | .error _, false =>
          match ← call (.openFile path { writes := true, create := true } false) with
          | .ok fd =>
            let _ ← call (.close fd)
            return 0
          | .error errno =>
            if path.getLast? == some (Bytes.ascii '/') then cannot "setting times of" path Errno.noEntry
            else cannot "cannot touch" path errno

/-- Make links. -/
def ln (words : List Bytes) : Talk Nat :=
  let known : Known := {
    letters := "bdfFiLnPrst:Tv"
    long := [("force", 'f'), ("no-dereference", 'n'), ("symbolic", 's'), ("no-target-directory", 'T'),
      ("target-directory", 't'), ("verbose", 'v')] }
  withOptions known words fun chosen => do
    let symbolic := chosen.has 's'
    let kind := if symbolic then "symbolic link" else "hard link"
    let step (source target : Bytes) : Talk Nat := do
      let found ← if symbolic then pure none else
        (fun result => some result) <$> call (.info source false)
      match found with
      | some (.error errno) => cannot "failed to access" source errno
      | some (.ok { kind := .directory, .. }) => failing (source ++ bytes ": hard link not allowed for directory")
      | _ =>
        let isThere := (← call (.info target false)).toOption.isSome
        if !(← mayReplace chosen "replace" target isThere) then return 1
        if chosen.has 'f' || (chosen.has 'i' && isThere) then
          let _ ← call (.remove target)
        match ← if symbolic then call (.create target (.link source) 0o777) else call (.link source target) with
        | .ok () =>
          if chosen.has 'v' then tellWay "" target (if symbolic then " -> " else " => ") source
          return 0
        | .error errno =>
          let way : Bytes := if errno = Errno.alreadyThere then []
            else if symbolic then if source.isEmpty then bytes " -> ''" else []
            else bytes " => " ++ quoted source
          failing (bytes "failed to create " ++ bytes kind ++ bytes " " ++ quoted target ++ way ++ bytes ": " ++
            bytes errno.usual)
    -- A link to a directory may be replaced like any other thing.
    let asName ← do
      match chosen.has 'n', ← call (.info (chosen.words.getLastD []) false) with
      | true, .ok info => pure (info.kind == .link)
      | _, _ => pure false
    match chosen.words, chosen.has 't' with
    | [only], false => step only (inside (bytes ".") (lastName only))
    | _, _ =>
      toTarget (if asName then { chosen with options := ('T', []) :: chosen.options } else chosen) step

/-- Let a second name stand for a file. -/
def link (words : List Bytes) : Talk Nat :=
  withOptions { letters := "" } words fun chosen => do
    match chosen.words with
    | [] => lacksOperand
    | [only] => misuse (bytes "missing operand after " ++ cited only) 1
    | [path, target] =>
      match ← call (.link path target) with
      | .ok () => return 0
      | .error errno =>
        failing (bytes "cannot create link " ++ quoted target ++ bytes " to " ++ quoted path ++ bytes ": " ++
          bytes errno.usual)
    | _ :: _ :: third :: _ => extraOperand third 1

/-- How a change of permission bits is told. -/
def modeShown (mode : Nat) : Bytes :=
  let digits := Nat.toDigits 8 mode
  let padded := List.replicate (4 - digits.length) '0' ++ digits
  let shown := Mode.letters (mode / 64) ++ Mode.letters (mode / 8) ++ Mode.letters mode
  Bytes.ofChars padded ++ bytes " (" ++ Bytes.ofChars shown ++ bytes ")"

/-- Change the permission bits of what is under a path, and of all below it down to a depth if wanted. -/
def changeModes (chosen : Chosen) (wanted : List Char) (mask : Nat) : Nat → Bytes → Talk Nat
  | 0, path => cannot "cannot access" path Errno.linkLoop
  | depth + 1, path => do
    match ← call (.info path true), ← call (.info path false) with
    | .error errno, .ok _ =>
      if chosen.has 'f' then return 1
      else if errno = Errno.noEntry then failing (bytes "cannot operate on dangling symlink " ++ quoted path)
      else cannot "cannot access" path errno
    | .error errno, .error _ => if chosen.has 'f' then return 1 else cannot "cannot access" path errno
    | .ok info, _ =>
      let isDirectory := info.kind == .directory
      let mode := (Mode.changed isDirectory mask info.mode wanted).toOption.getD info.mode
      let _ ← call (.setMode path mode)
      if mode != info.mode && (chosen.has 'v' || chosen.has 'c') then
        let _ ← print (bytes "mode of " ++ quoted path ++ bytes " changed from " ++ modeShown info.mode ++
          bytes " to " ++ modeShown mode ++ [lineEnd])
      else if chosen.has 'v' then
        let _ ← print (bytes "mode of " ++ quoted path ++ bytes " retained as " ++ modeShown mode ++ [lineEnd])
      if isDirectory && chosen.has 'R' then
        match ← call (.list path) with
        | .error errno => cannot "cannot read directory" path errno
        | .ok names =>
          eachWord names fun name => do
            match ← call (.info (inside path name) false) with
            | .ok { kind := .link, .. } => return 0
            | _ => changeModes chosen wanted mask depth (inside path name)
      else return 0

/-- Change permission bits. -/
def chmod (words : List Bytes) : Talk Nat := do
  let known : Known := {
    letters := "cfRv"
    long := [("changes", 'c'), ("quiet", 'f'), ("silent", 'f'), ("recursive", 'R'), ("verbose", 'v')] }
  -- A word that takes permissions away is spelled like an option.
  let takes (word : Bytes) : Bool :=
    match Bytes.toOctets word with
    | '-' :: c :: _ => "rwxXstugoa,+=".toList.contains c
    | _ => false
  let front := words.takeWhile (· != bytes "--")
  let taken := front.filter takes
  let others := front.filter (fun word => !takes word) ++ words.drop front.length
  withOptions known others fun chosen => do
    match (if taken.isEmpty then [] else [[Bytes.ascii ','].intercalate taken]) ++ chosen.words with
    | [] => lacksOperand
    | [only] => misuse (bytes "missing operand after " ++ cited only) 1
    | wanted :: paths =>
      let mask ← maskOf
      match Mode.changed false mask 0 (Bytes.toOctets wanted) with
      | .error _ => misuse (bytes "invalid mode: " ++ cited wanted) 1
      | .ok _ => eachWord paths (changeModes chosen (Bytes.toOctets wanted) mask 64)

/-- Cut files to a size, or fill them up to it. -/
def truncate (words : List Bytes) : Talk Nat :=
  let known : Known := {
    letters := "cor:s:"
    long := [("no-create", 'c'), ("reference", 'r'), ("size", 's')] }
  withOptions known words fun chosen => do
    match chosen.text? 's', chosen.words with
    | none, _ => misuse (bytes "you must specify either " ++ cited (bytes "--size") ++ bytes " or " ++
        cited (bytes "--reference")) 1
    | _, [] => misuse (bytes "missing file operand") 1
    | some text, paths =>
      let sign := (Bytes.toOctets text).head?.filter fun c => "+-<>/%".toList.contains c
      match amount? (if sign.isSome then text.tail else text) with
      | none => failing (bytes "Invalid number: " ++ cited text)
      | some amount =>
        eachWord paths fun path => do
          let there ← call (.info path true)
          let old := match there with
            | .ok info => info.size
            | .error _ => 0
          let size : Nat := match sign with
            | some '+' => old + amount
            | some '-' => old - amount
            | some '<' => min old amount
            | some '>' => max old amount
            | some '/' => old - old % max 1 amount
            | some '%' => (old + amount - 1) / max 1 amount * amount
            | _ => amount
          match there, chosen.has 'c' with
          | .error _, true => return 0
          | _, _ =>
            let data ← if old = 0 then pure (.ok []) else readInput path
            match data, ← call (.openFile path Access.writing false) with
            | .ok data, .ok fd =>
              let _ ← writeAll fd (data.take size ++ List.replicate (size - data.length) 0)
              let _ ← call (.close fd)
              return 0
            | _, .error errno =>
              failing (bytes "cannot open " ++ quoted path ++ bytes " for writing: " ++ bytes errno.usual)
            | .error errno, _ =>
              failing (bytes "cannot open " ++ quoted path ++ bytes " for writing: " ++ bytes errno.usual)

/-- Letters and digits that a number stands for. -/
def randomLetters : Nat → Nat → List Char
  | 0, _ => []
  | count + 1, seed =>
    let next := (seed * 6364136223846793005 + 1442695040888963407) % 18446744073709551616
    let letters := "ABCDEFGHIJKLMNOPQRSTUVWXYZabcdefghijklmnopqrstuvwxyz0123456789".toList
    letters.getD (next / 4294967296 % 62) 'X' :: randomLetters count next

/-- Make a file or a directory whose name is new. -/
def mktemp (words : List Bytes) : Talk Nat :=
  let known : Known := {
    letters := "dp::qtu"
    long := [("directory", 'd'), ("tmpdir", 'p'), ("quiet", 'q'), ("dry-run", 'u')] }
  withOptions known words fun chosen => do
    let template := chosen.words.headD (bytes "tmp.XXXXXXXXXX")
    let marks := (template.reverse.takeWhile (· == Bytes.ascii 'X')).length
    let isDirectory := chosen.has 'd'
    match chosen.words with
    | _ :: _ :: _ => misuse (bytes "too many templates") 1
    | given =>
      if marks < 3 then failing (bytes "too few X's in template " ++ cited template)
      else
        let (self, _) ← call .identity
        let seed := self * 1000003 + (← call .clock)
        let name := template.take (template.length - marks) ++ Bytes.ofChars (randomLetters marks seed)
        let usual := ((← call .environment).lookup (bytes "TMPDIR")).getD (bytes "/tmp")
        let root := match chosen.text? 'p' with
          | some (first :: directory) => first :: directory
          | _ => usual
        let path := if given.isEmpty || chosen.has 'p' || chosen.has 't' then inside root name else name
        let made ← if chosen.has 'u' then pure (.ok ())
          else if isDirectory then call (.create path .directory 0o700)
          else call (.create path (.file []) 0o600)
        match made with
        | .ok () => print (path ++ [lineEnd])
        | .error errno =>
          failing (bytes "failed to create " ++ bytes (if isDirectory then "directory" else "file") ++
            bytes " via template " ++ cited template ++ bytes ": " ++ bytes errno.usual)

end Umpire.Tool
