import Umpire.Tool.Names

/-! Programs of the host that show what is under names, and where paths lead. -/

namespace Umpire.Tool

open Host

/-- What a path has to lead to for its real path to be known. -/
inductive Existence where
  /-- Everything on the way and the last name. -/
  | all
  /-- Everything but the last name. -/
  | way
  | nothing
  deriving DecidableEq, Repr

/-- Follow names from a directory to where they really lead; the answer is the names from the root on. -/
def realNames (existence : Existence) (followsLinks : Bool) :
    Nat → List Bytes → List Bytes → Talk (Except Errno (List Bytes))
  | 0, _, _ => return .error Errno.linkLoop
  | _ + 1, done, [] => return .ok done
  | fuel + 1, done, name :: rest => do
    if name.isEmpty || name = bytes "." then realNames existence followsLinks fuel done rest
    else if name = bytes ".." then realNames existence followsLinks fuel done.dropLast rest
    else
      let reached := done ++ [name]
      let path := bytes "/" ++ [Bytes.ascii '/'].intercalate reached
      let isLast := rest.all fun name => name.isEmpty || name = bytes "."
      match ← call (.info path false) with
      | .error errno =>
        if existence = .nothing || (existence = .way && isLast && errno = Errno.noEntry) then
          realNames existence followsLinks fuel reached rest
        else return .error errno
      | .ok info =>
        if info.kind == .link && followsLinks then
          match ← call (.readLink path) with
          | .error errno => return .error errno
          | .ok target =>
            let names := target.splitOn (Bytes.ascii '/')
            let start := if target.head? == some (Bytes.ascii '/') then [] else done
            realNames existence followsLinks fuel start (names ++ rest)
        else if info.kind != .directory && !rest.isEmpty && existence != .nothing then
          return .error Errno.notDirectory
        else realNames existence followsLinks fuel reached rest

/-- The names on the way to the directory of this process. -/
def workplaceNames : Talk (List Bytes) := do
  match ← call (.readLink (bytes "/proc/self/cwd")) with
  | .ok path => return (path.splitOn (Bytes.ascii '/')).filter fun name => !name.isEmpty
  | .error _ => return []

/-- Where a path really leads. -/
def realPath (existence : Existence) (followsLinks : Bool) (path : Bytes) : Talk (Except Errno (List Bytes)) := do
  if path.isEmpty then return .error Errno.noEntry
  else
    let start ← if path.head? == some (Bytes.ascii '/') then pure [] else workplaceNames
    realNames existence followsLinks 1000 start (path.splitOn (Bytes.ascii '/'))

/-- The path that names from the root on spell. -/
def pathFromRoot (names : List Bytes) : Bytes :=
  bytes "/" ++ [Bytes.ascii '/'].intercalate names

/-- Show where links lead. -/
def readlink (words : List Bytes) : Talk Nat :=
  let known : Known := {
    letters := "femnqsvz"
    long := [("canonicalize", 'f'), ("canonicalize-existing", 'e'), ("canonicalize-missing", 'm'),
      ("no-newline", 'n'), ("quiet", 'q'), ("silent", 's'), ("verbose", 'v'), ("zero", 'z')] }
  withOptions known words fun chosen => do
    let existence := (chosen.last? "fem").map fun letter =>
      if letter == 'e' then Existence.all else if letter == 'm' then .nothing else .way
    let several := 1 < chosen.words.length
    if chosen.words.isEmpty then lacksOperand
    else
      if chosen.has 'n' && several then complain (bytes "ignoring --no-newline with multiple arguments")
      let ending : Bytes := if chosen.has 'n' && !several then [] else if chosen.has 'z' then [0] else [lineEnd]
      eachWord chosen.words fun path => do
        let found ← match existence with
          | none => call (.readLink path)
          | some existence => do
            let names ← realPath existence true path
            pure (names.map pathFromRoot)
        match found with
        | .ok shown => print (shown ++ ending)
        | .error errno =>
          if chosen.last? "qsv" == some 'v' then complainOf path errno
          return 1

/-- Show where paths really lead. -/
def realpath (words : List Bytes) : Talk Nat :=
  let known : Known := {
    letters := "eELmPqszr:b:"
    long := [("canonicalize", 'E'), ("canonicalize-existing", 'e'), ("canonicalize-missing", 'm'), ("logical", 'L'),
      ("physical", 'P'), ("quiet", 'q'), ("no-symlinks", 's'), ("strip", 's'), ("zero", 'z'), ("relative-to", 'r'),
      ("relative-base", 'b')] }
  withOptions known words fun chosen => do
    let existence : Existence := match chosen.last? "emE" with
      | some 'e' => .all
      | some 'm' => .nothing
      | _ => .way
    let follows := !chosen.has 's'
    let start ← match chosen.text? 'r' with
      | some path => pure ((← realPath .nothing true path).toOption)
      | none => pure none
    if chosen.words.isEmpty then lacksOperand
    else
      eachWord chosen.words fun path => do
        match ← realPath existence follows path with
        | .error errno =>
          if !chosen.has 'q' then complainOf path errno
          return 1
        | .ok names =>
          let shown := match start with
            | none => pathFromRoot names
            | some origin =>
              let common := ((origin.zip names).takeWhile fun pair => pair.1 = pair.2).length
              let relative := List.replicate (origin.length - common) (bytes "..") ++ names.drop common
              if relative.isEmpty then bytes "." else [Bytes.ascii '/'].intercalate relative
          print (shown ++ if chosen.has 'z' then [0] else [lineEnd])

/-- Show the directory of this process. -/
def pwd (words : List Bytes) : Talk Nat :=
  withOptions { letters := "LP", long := [("logical", 'L'), ("physical", 'P')] } words fun chosen => do
    if !chosen.words.isEmpty then complain (bytes "ignoring non-option arguments")
    print (pathFromRoot (← workplaceNames) ++ [lineEnd])

/-- The letter and the number of a kind of thing. -/
def kindMark (kind : Kind) : Char × Nat :=
  match kind with
  | .file => ('-', 0o100000)
  | .directory => ('d', 0o40000)
  | .fifo => ('p', 0o10000)
  | .link => ('l', 0o120000)
  | .device => ('c', 0o20000)

/-- The kind and the permissions of a thing as letters. -/
def lettersOf (info : Info) : Bytes :=
  Bytes.ofChars ((kindMark info.kind).1 :: (Mode.letters (info.mode / 64) ++ Mode.letters (info.mode / 8) ++
    Mode.letters info.mode))

/-- A path between quotes, and where it leads if it is a link. -/
def quotedWithTarget (path : Bytes) (target : Option Bytes) : Bytes :=
  match target with
  | some leads => quoted path ++ bytes " -> " ++ quoted leads
  | none => quoted path

/-- What a file's account says of it, asked for by a letter. -/
def accountPart (path : Bytes) (target : Option Bytes) (info : Info) (letter : Char) : Bytes :=
  match letter with
  | 'a' => Bytes.ofChars (Nat.toDigits 8 info.mode)
  | 'A' => lettersOf info
  | 's' => numeral info.size
  | 'n' => path
  | 'N' => quotedWithTarget path target
  | 'F' => bytes (kindShown info)
  | 'f' => Bytes.ofChars (Nat.toDigits 16 ((kindMark info.kind).2 + info.mode))
  | 'h' => numeral info.names
  | 'i' => numeral info.identity
  | 'u' | 'g' => bytes "0"
  | 'U' | 'G' => bytes "root"
  | 'b' => numeral ((info.size + 4095) / 4096 * 8)
  | 'B' => bytes "512"
  | 'o' => bytes "4096"
  | '%' => bytes "%"
  | _ => bytes "?"

/-- What a file's account says of it by a format. -/
def accountOf (path : Bytes) (target : Option Bytes) (info : Info) : Nat → List Char → Bytes
  | 0, _ => []
  | _ + 1, [] => []
  | fuel + 1, '%' :: rest =>
    let flags := rest.takeWhile fun c => c == '-' || c == '0' || c == '+' || c == ' '
    let afterFlags := rest.drop flags.length
    let digits := afterFlags.takeWhile Char.isDigit
    let width : Nat := digits.foldl (fun n c => n * 10 + (c.toNat - 48)) 0
    match afterFlags.drop digits.length with
    | [] => bytes "%"
    | letter :: left =>
      let shown := accountPart path target info letter
      let filling := List.replicate (width - shown.length)
        (Bytes.ascii (if flags.contains '0' then '0' else ' '))
      (if flags.contains '-' then shown ++ filling else filling ++ shown) ++ accountOf path target info fuel left
  | fuel + 1, c :: rest => Bytes.ofOctets [c] ++ accountOf path target info fuel rest

/-- Tell what paths lead to, by a format. -/
def stat (words : List Bytes) : Talk Nat :=
  let known : Known := {
    letters := "c:fLtp:"
    long := [("format", 'c'), ("dereference", 'L'), ("printf", 'p'), ("terse", 't'), ("file-system", 'f')] }
  withOptions known words fun chosen => do
    if chosen.words.isEmpty then lacksOperand
    else
      eachWord chosen.words fun path => do
        match ← call (.info path (chosen.has 'L')) with
        | .error errno => cannot "cannot statx" path errno
        | .ok info =>
          let target ← if info.kind == .link then (·.toOption) <$> call (.readLink path) else pure none
          let shown (format : List Char) : Bytes := accountOf path target info (format.length + 1) format
          match chosen.last? "cp" with
          | some 'p' =>
            let format := Format.unescaped .program .format (Bytes.toOctets ((chosen.text? 'p').getD []))
            print (shown format.text)
          | some _ => print (shown (Bytes.toOctets ((chosen.text? 'c').getD [])) ++ [lineEnd])
          | none => print (shown "  File: %N\n  Size: %s\t\t%F\nAccess: (0%a/%A)\n".toList)

/-- One entry of a list of names. -/
structure Listed where
  shown : Bytes
  path : Bytes
  info : Info

/-- Whether what an entry stands for takes up room of its own. -/
def Listed.fillsBlocks (entry : Listed) : Bool :=
  0 < entry.info.size && (entry.info.kind == .file || entry.info.kind == .directory)

/-- The mark after a name that tells its kind. -/
def markAfter (chosen : Chosen) (info : Info) : Bytes :=
  match chosen.last? "Fp", info.kind with
  | some _, .directory => bytes "/"
  | some 'F', .link => bytes "@"
  | some 'F', .fifo => bytes "|"
  | some 'F', .file => if info.mode &&& 0o111 != 0 then bytes "*" else []
  | _, _ => []

/-- One entry as it is printed. -/
def entryShown (chosen : Chosen) (entry : Listed) : Talk Bytes := do
  let named := if chosen.has 'Q' then bytes "\"" ++ entry.shown ++ bytes "\"" else entry.shown
  let number := if chosen.has 'i' then numeral entry.info.identity ++ bytes " " else []
  if chosen.has 'l' then
    let target ← if entry.info.kind != .link then pure none
      else match ← call (.readLink entry.path) with
        | .ok path => pure (some path)
        | .error _ => do
          let (self, _) ← call .identity
          pure (some (bytes "/proc/" ++ numeral self ++ bytes "/fd"))
    let leads := match target with
      | some path => bytes " -> " ++ path
      | none => []
    return number ++ lettersOf entry.info ++ bytes " " ++ numeral entry.info.names ++ bytes " root root " ++
      numeral entry.info.size ++ bytes " Jan  1 00:00 " ++ named ++
      (if leads.isEmpty then markAfter chosen entry.info else leads)
  else return number ++ named ++ markAfter chosen entry.info

/-- Print entries, in order. -/
def printEntries (chosen : Chosen) (entries : List Listed) : Talk Nat := do
  let ordered := if chosen.has 'U' || chosen.has 'f' then entries
    else entries.mergeSort fun a b => !Bytes.before b.shown a.shown
  let turned := if chosen.has 'r' then ordered.reverse else ordered
  let lines ← turned.mapM (entryShown chosen)
  if chosen.has 'm' && !lines.isEmpty then print ((bytes ", ").intercalate lines ++ [lineEnd])
  else print (lines.map fun line => line ++ [lineEnd]).flatten

/-- The entries of a directory. -/
def entriesOf (chosen : Chosen) (path : Bytes) : Talk (Except Errno (List Listed)) := do
  match ← call (.list path) with
  | .error errno => return .error errno
  | .ok names =>
    let hidden (name : Bytes) : Bool := name.head? == some (Bytes.ascii '.')
    let shown := names.filter fun name => chosen.has 'a' || chosen.has 'A' || chosen.has 'f' || !hidden name
    let all := (if chosen.has 'a' || chosen.has 'f' then [bytes ".", bytes ".."] else []) ++ shown
    let found ← all.mapM fun name => do
      let known ← call (.info (inside path name) (chosen.has 'L'))
      -- The link of the descriptor by which links of descriptors are listed is there no longer.
      let usual : Info := { kind := .link, mode := 0o500, size := 64 }
      pure (⟨name, inside path name, known.toOption.getD usual⟩ : Listed)
    return .ok found

/-- Show the names in directories, and in those below them down to a depth if wanted. -/
def listDirectories (chosen : Chosen) (titled : Bool) : Nat → Bool → List Bytes → Talk Nat
  | 0, _, _ => return 0
  | _ + 1, _, [] => return 0
  | depth + 1, isFirst, path :: rest => do
    match ← entriesOf chosen path with
    | .error errno =>
      let _ ← cannot "cannot open directory" path errno
      return max 2 (← listDirectories chosen titled depth isFirst rest)
    | .ok entries =>
      if titled then
        let _ ← print (bytes (if isFirst then "" else "\n") ++ path ++ bytes ":\n")
      if chosen.has 'l' || chosen.has 's' then
        let _ ← print (bytes "total " ++ numeral (4 * (entries.filter (·.fillsBlocks)).length) ++ [lineEnd])
      let _ ← printEntries chosen entries
      let below := if chosen.has 'R' then
          (entries.filter fun entry => entry.info.kind == .directory && entry.shown != bytes "." &&
            entry.shown != bytes "..").map (·.path)
        else []
      let ordered := below.mergeSort fun a b => !Bytes.before b a
      listDirectories chosen titled depth false (ordered ++ rest)

/-- Show names, and what is in directories. -/
def ls (words : List Bytes) : Talk Nat :=
  let known : Known := {
    letters := "1aAbBcCdfFgGhHikKlLmnNopqQrRsStTuUvw:xXZ#::"
    long := [("all", 'a'), ("almost-all", 'A'), ("directory", 'd'), ("classify", 'F'), ("inode", 'i'),
      ("dereference", 'L'), ("recursive", 'R'), ("reverse", 'r'), ("quote-name", 'Q'), ("color", '#')]
    wrong := 2 }
  withOptions known words fun chosen => do
    let mut plain : List Listed := []
    let mut directories : List Bytes := []
    let mut code := 0
    for path in if chosen.words.isEmpty then [bytes "."] else chosen.words do
      let follows := chosen.has 'L' || !(chosen.has 'l' || chosen.has 'd' || chosen.has 'F')
      let led ← call (.info path follows)
      let own ← call (.info path false)
      let found : Except Errno Info := match led, chosen.has 'L' with
        | .error _, false => own
        | _, _ => led
      match found with
      | .error errno =>
        let _ ← cannot "cannot access" path errno
        code := 2
      | .ok info =>
        if info.kind == .directory && !chosen.has 'd' then directories := directories ++ [path]
        else
          plain := plain ++ [⟨path, path, if chosen.has 'L' then info else own.toOption.getD info⟩]
    if !plain.isEmpty then
      let _ ← printEntries chosen plain
    let ordered := directories.mergeSort fun a b => !Bytes.before b a
    let titled := 1 < chosen.words.length || chosen.has 'R'
    return max code (← listDirectories chosen titled 1000 plain.isEmpty ordered)

/-- Tell who runs this process: the user who may do everything. -/
def id (words : List Bytes) : Talk Nat :=
  let known : Known := {
    letters := "agGnruz"
    long := [("group", 'g'), ("groups", 'G'), ("name", 'n'), ("real", 'r'), ("user", 'u'), ("zero", 'z')] }
  withOptions known words fun chosen =>
    let short := ['u', 'g', 'G'].any chosen.has
    print (bytes (if !short then "uid=0(root) gid=0(root) groups=0(root)\n"
      else if chosen.has 'n' then "root\n" else "0\n"))

/-- The programs of a name in some directories. -/
def programsNamed (name : Bytes) : List Bytes → Talk (List Bytes)
  | [] => return []
  | directory :: rest => do
    let path := if name.contains (Bytes.ascii '/') then name
      else (if directory.isEmpty then bytes "." else directory) ++ Bytes.ascii '/' :: name
    let here ← match ← call (.info path true) with
      | .ok info => pure (if info.kind == .file && info.mode &&& 0o111 != 0 then [path] else [])
      | .error _ => pure []
    return here ++ (← programsNamed name rest)

/-- Tell where programs are. -/
def which (words : List Bytes) : Talk Nat := do
  let isOption (word : Bytes) : Bool := word.head? == some (Bytes.ascii '-') && 1 < word.length
  let options := (words.takeWhile fun word => isOption word && word != bytes "--")
  let names := (words.drop options.length).dropWhile fun word => word = bytes "--"
  let letters := (options.map fun word => word.drop 1).flatten
  match letters.find? fun letter => letter != Bytes.ascii 'a' && letter != Bytes.ascii 's' with
  | some letter =>
    let _ ← writeAll 2 (bytes "Illegal option -" ++ [letter, lineEnd])
    let name ← ownName
    let path := if name.contains (Bytes.ascii '/') then name else bytes "/usr/bin/" ++ name
    let _ ← print (bytes "Usage: " ++ path ++ bytes " [-as] args\n")
    return 2
  | none =>
    let searched := ((← call .environment).lookup (bytes "PATH")).getD []
    let mut code := if names.isEmpty then 1 else 0
    for name in names do
      let directories := if name.contains (Bytes.ascii '/') then [[]] else searched.splitOn (Bytes.ascii ':')
      let found ← programsNamed name directories
      let shown := if letters.contains (Bytes.ascii 'a') then found else found.take 1
      if found.isEmpty then code := 1
      if !letters.contains (Bytes.ascii 's') then
        let _ ← print (shown.flatMap fun path => path ++ [lineEnd])
    return code

/-- Tell the name of the user who runs this process. -/
def whoami (_ : List Bytes) : Talk Nat :=
  print (bytes "root\n")

end Umpire.Tool
