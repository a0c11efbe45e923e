import Umpire.Shell.Word

/-! Reading scripts into commands. -/

namespace Umpire.Shell.Parser

/-- Pass over blanks, joined lines and remarks. -/
def blanks : Nat → Reading Unit
  | 0 => return ()
  | fuel + 1 => do
    match (← get).rest with
    | ' ' :: _ | '\t' :: _ =>
      skip 1
      blanks fuel
    | '\\' :: '\n' :: _ =>
      skip 2
      blanks fuel
    | '#' :: rest => skip ((rest.takeWhile (· != '\n')).length + 1)
    | _ => return ()

/-- Pass over blanks. -/
def gap : Reading Unit := do
  blanks ((← get).rest.length + 1)

/-- Pass over blanks and line ends. -/
def lineEnds : Nat → Reading Unit
  | 0 => return ()
  | fuel + 1 => do
    gap
    match (← get).rest with
    | '\n' :: _ =>
      skip 1
      lineEnds fuel
    | _ => return ()

/-- Pass over blanks and line ends. -/
def linebreak : Reading Unit := do
  lineEnds ((← get).rest.length + 1)

/-- Take an operator if it stands here. -/
def take? (operator : String) : Reading Bool := do
  gap
  if operator.toList.isPrefixOf (← get).rest then
    skip operator.length
    return true
  else return false

/-- The bare word that stands here, which stays; reserved words are told by it. -/
def bareWord : Reading (List Char) := do
  gap
  return (← get).rest.takeWhile fun c => !endsWord c

/-- Replace the word that stands here as long as it stands for another text. -/
def replaceWords : Nat → Reading Unit
  | 0 => return ()
  | fuel + 1 => do
    let source ← get
    if source.aliases.isEmpty then return ()
    else
      let bare ← bareWord
      let source ← get
      let inside := source.replaced.filter fun known => known.2 < source.rest.length
      let isReserved := source.dialect = .plain && reservedWords.any fun name => name.toList == bare
      match source.aliases.lookup bare with
      | none => return ()
      | some value =>
        if isReserved || inside.any fun known => known.1 == bare then return ()
        else
          let left := source.rest.drop bare.length
          let endsBlank := value.getLast?.any isGap
          set { source with
            rest := value ++ left
            replaced := (bare, left.length) :: inside
            nextReplaced := if endsBlank then some left.length else source.nextReplaced }
          replaceWords fuel

/-- Replace the word that stands here if a text before it says so. -/
def replaceNext : Reading Unit := do
  gap
  let source ← get
  if let some left := source.nextReplaced then
    if source.rest.length ≤ left then
      set { source with nextReplaced := none }
      replaceWords source.room

/-- Take a reserved word if it stands here. -/
def reserved? (name : String) : Reading Bool := do
  if (← bareWord) == name.toList then
    skip name.length
    return true
  else return false

/-- The words that end a list of commands. -/
def closers : List String :=
  ["then", "else", "elif", "fi", "do", "done", "esac", "\x7d"]

/-- Stop at what stands here, a reserved word being no word then. -/
def unexpected {α : Type} (wanted : Option String) : Reading α := do
  let bare ← bareWord
  if closers.any fun name => name.toList == bare then stumble (.misplaced bare false wanted)
  else misplaced wanted

/-- Stop where a line cannot end, should it end here; the large shell sees a line end before the end of
the script. -/
def cutOff {α : Type} (wanted : Option String) : Reading α := do
  if (← isLarge) && (← get).rest.isEmpty then stumble (.misplaced ['\n'] false none)
  else unexpected wanted

/-- Take a reserved word that must stand here. -/
def reserved (name : String) : Reading Unit := do
  replaceWords (← get).room
  if !(← reserved? name) then unexpected (some name)

/-- Digits as a number. -/
def numberOf (digits : List Char) : Nat :=
  digits.foldl (fun n c => n * 10 + (c.toNat - 48)) 0

/-- The descriptor right before a redirection, its sign, and what follows. -/
def redirectionSign? (dialect : Dialect) (chars : List Char) :
    Option (Target × Direction × List Char) :=
  let large := dialect = .large
  let digits := chars.takeWhile Char.isDigit
  let known : Option Target := if digits.isEmpty || (!large && 1 < digits.length) then none
    else some (.number (numberOf digits))
  let (named, afterName) : Option Target × List Char :=
    match chars with
    | '\x7b' :: rest =>
      let name := rest.takeWhile inName
      let (subscript, after) := subscript? (rest.drop name.length)
      let written := rest.take (rest.length - after.length)
      match large && isName name && subscript != some [], after with
      | true, '\x7d' :: left => (some (.variable written), left)
      | _, _ => (none, chars)
    | _ => (none, chars)
  let (target, rest) := match known, named with
    | some found, _ => (some found, chars.drop digits.length)
    | none, some found => (some found, afterName)
    | none, none => (none, chars)
  let input := target.getD (.number 0)
  let output := target.getD (.number 1)
  match rest with
  | '&' :: '>' :: '>' :: left => if large && target.isNone then some (output, .appendAll, left) else none
  | '&' :: '>' :: left => if large && target.isNone then some (output, .writeAll, left) else none
  | '>' :: '>' :: left => some (output, .append, left)
  | '>' :: '&' :: left => some (output, .duplicateOutput, left)
  | '>' :: '|' :: left => some (output, .overwrite, left)
  | '>' :: '(' :: _ => if large then none else some (output, .write, rest.drop 1)
  | '>' :: left => some (output, .write, left)
  | '<' :: '&' :: left => some (input, .duplicateInput, left)
  | '<' :: '>' :: left => some (input, .both, left)
  | '<' :: '<' :: '<' :: left => if large then some (input, .line, left) else some (input, .document, '<' :: left)
  | '<' :: '<' :: left => some (input, .document, left)
  | '<' :: '(' :: _ => if large then none else some (input, .read, rest.drop 1)
  | '<' :: left => some (input, .read, left)
  | _ => none

/-- The lines up to one that is the given text, and the lines after it. -/
def linesUntil (last : List Char) (unindented : Bool) : List (List Char) →
    List (List Char) × Option (List (List Char))
  | [] => ([], none)
  | first :: rest =>
    let line := if unindented then first.dropWhile (· == '\t') else first
    if line == last then ([], some rest)
    else
      let (taken, after) := linesUntil last unindented rest
      (line :: taken, after)

/-- Take the text that a script gives in its next lines, up to one that is the given word. A word
with quotes keeps the text as it stands. -/
def document (delimiter : Word) (unindented : Bool) : Reading Word := do
  let plain : List Char := delimiter.flatMap fun
    | .text chars _ => chars
    | _ => []
  let isQuoted := delimiter.any fun
    | .text _ quoted => quoted
    | _ => false
  let source ← get
  let current := source.rest.takeWhile (· != '\n')
  if current.length = source.rest.length then return []
  let lines := (source.rest.drop (current.length + 1)).splitOn '\n'
  let (taken, after) := linesUntil plain unindented lines
  -- A text that the end of the script breaks off may lack its last line end.
  let text := match after with
    | some _ => (taken.map fun line => line ++ ['\n']).flatten
    | none =>
      let whole := ['\n'].intercalate taken
      if source.dialect = .large && whole.getLast? != some '\n' && !whole.isEmpty then whole ++ ['\n']
      else whole
  set { source with
    rest := current ++ (match after with
      | some left => '\n' :: ['\n'].intercalate left
      | none => [])
    taken := source.taken + taken.length + if after.isSome then 1 else 0
    broken := if after.isSome then source.broken else source.broken ++ [(source.line, plain)] }
  if isQuoted then return [.text text true]
  else
    match documentOf source.dialect (source.line + 1) text with
    | .ok parts => return parts
    | .error reason => throw reason

/-- One redirection if it stands here. -/
def redirection? (nested : Nested) : Reading (Option Redirection) := do
  gap
  let source ← get
  match redirectionSign? source.dialect source.rest with
  | none => return none
  | some (target, direction, rest) =>
    skipTo rest
    let unindented := direction == .document && rest.head? == some '-'
    if unindented then skip 1
    gap
    match ← writtenWord? nested with
    | none => cutOff none
    | some (written, shown) =>
      let word ← if direction == .document then document written unindented else pure written
      return some { target, direction, word, shown }

/-- The redirections that stand here. -/
def redirections (nested : Nested) : Nat → Reading (List Redirection)
  | 0 => return []
  | fuel + 1 => do
    match ← redirection? nested with
    | none => return []
    | some first => return first :: (← redirections nested fuel)

/-- The variable that a word assigns to, with what tells the element, whether something is added, and
what follows the equals sign. -/
def assignmentHead? (dialect : Dialect) (chars : List Char) :
    Option (List Char × Option (List Char) × Bool × List Char) :=
  let name := chars.takeWhile inName
  if !isName name then none
  else
    let large := dialect = .large
    let (subscript, after) := if large then subscript? (chars.drop name.length)
      else (none, chars.drop name.length)
    match after with
    | '=' :: rest => some (name, subscript, false, rest)
    | '+' :: '=' :: rest => if large then some (name, subscript, true, rest) else none
    | _ => none

/-- The value of an assignment whose equals sign has been passed. -/
def assigned (nested : Nested) : Reading Word := do
  let source ← get
  match source.dialect, source.rest with
  | .large, '(' :: rest =>
    match enclosed? ')' false rest with
    | some (inner, left) =>
      skipTo left
      return [.elements inner]
    | none => stumble (.unclosed ")")
  | _, _ => return merge (← wordParts nested false (source.rest.length + 1) [])

/-- The commands of the large shell that take assignments as their words. -/
def declarers : List String :=
  ["declare", "typeset", "local", "export", "readonly"]

/-- Whether a word is one of these commands. -/
def isDeclarer (word : Word) : Bool :=
  match word with
  | [.text name false] => declarers.any fun known => known.toList == name
  | _ => false

/-- The words, assignments and redirections of a simple command. -/
def simpleParts (nested : Nested) : Nat → List Assignment → List Word → List Redirection →
    Reading (List Assignment × List Word × List Redirection)
  | 0, assignments, words, found => return (assignments, words, found)
  | fuel + 1, assignments, words, found => do
    match ← redirection? nested with
    | some next => simpleParts nested fuel assignments words (found ++ [next])
    | none =>
      if words.isEmpty && !(assignments.isEmpty && found.isEmpty) then replaceWords (← get).room
      else if !words.isEmpty then replaceNext
      let source ← get
      match assignmentHead? source.dialect source.rest with
      | some (name, subscript, adds, rest) =>
        if words.isEmpty then
          skipTo rest
          let value ← assigned nested
          simpleParts nested fuel (assignments ++ [⟨name, subscript, adds, value⟩]) words found
        else if (words.head?.any isDeclarer) && rest.head? == some '(' && source.dialect = .large then
          let head := source.rest.take (source.rest.length - rest.length)
          skipTo rest
          let value ← assigned nested
          simpleParts nested fuel assignments (words ++ [.text head false :: value]) found
        else
          match ← word? nested with
          | none => return (assignments, words, found)
          | some word => simpleParts nested fuel assignments (words ++ [word]) found
      | none =>
        match ← word? nested with
        | none => return (assignments, words, found)
        | some word => simpleParts nested fuel assignments (words ++ [word]) found

/-- The parts of a simple command, and the line by which it is told. That is where it starts; the large
shell has read its second part by then. -/
def simple (large : Bool) (nested : Nested) (fuel line : Nat) :
    Reading (List Assignment × List Word × List Redirection × Nat) := do
  if !large then
    let (assignments, words, found) ← simpleParts nested fuel [] [] []
    return (assignments, words, found, line)
  else
    let (assignments, words, found) ← simpleParts nested 1 [] [] []
    gap
    let before := (← get).line
    let (assignments, words, others) ← simpleParts nested 1 assignments words found
    let after := (← get).line
    let reached := if found.length < others.length then before else after
    let (assignments, words, found) ← simpleParts nested fuel assignments words others
    return (assignments, words, found, reached)

/-- The words up to the end of a list, and the texts by which they are written. -/
def wordList (nested : Nested) : Nat → Reading (List (Word × List Char))
  | 0 => return []
  | fuel + 1 => do
    gap
    match ← writtenWord? nested with
    | none => return []
    | some first => return first :: (← wordList nested fuel)

/-- The patterns of an arm, up to the closing parenthesis. -/
def patterns (nested : Nested) : Nat → Reading (List Word)
  | 0 => return []
  | fuel + 1 => do
    gap
    match ← word? nested with
    | none =>
      let source ← get
      match source.dialect, source.rest with
      | .plain, c :: _ =>
        -- The plain shell takes an operator for a pattern.
        let sign := operators.find? fun operator => operator.toList.isPrefixOf source.rest
        if c == '\n' then unexpected none
        else
          skip ((sign.map String.length).getD 1)
          if ← take? ")" then return [[]] else unexpected (some ")")
      | _, [] => unexpected (some ")")
      | _, _ => unexpected none
    | some first =>
      if ← take? "|" then return first :: (← patterns nested fuel)
      else if ← take? ")" then return [first]
      else unexpected (some ")")

/-- How a redirection is told: its sign, and its word after a blank unless the sign is followed by a
descriptor. -/
def Redirection.told (redirection : Redirection) : List Char :=
  let target (usual : Nat) : List Char :=
    match redirection.target with
    | .number fd => if fd = usual then [] else Nat.toDigits 10 fd
    | .variable name => '\x7b' :: name ++ ['\x7d']
  let word := redirection.shown
  match redirection.direction with
  | .read => target 0 ++ "< ".toList ++ word
  | .write => target 1 ++ "> ".toList ++ word
  | .overwrite => target 1 ++ ">| ".toList ++ word
  | .append => target 1 ++ ">> ".toList ++ word
  | .both => target 0 ++ "<> ".toList ++ word
  | .writeAll => "&> ".toList ++ word
  | .appendAll => "&>> ".toList ++ word
  | .duplicateInput => target 0 ++ "<&".toList ++ word
  | .duplicateOutput => target 1 ++ ">&".toList ++ word
  | .document => target 0 ++ "<<".toList ++ word
  | .line => target 0 ++ "<<< ".toList ++ word

/-- The words, redirections and connectives of simple commands; none if there is something else. -/
def tellings : Nat → Reading (Option (List (List Char)))
  | 0 => return none
  | fuel + 1 => do
    gap
    if (← get).rest.isEmpty then return some []
    let piece : Option (List Char) ← match ← redirection? roughly with
      | some found => pure (some (Redirection.told found))
      | none =>
        match ← writtenWord? roughly with
        | some (_, shown) => pure (some shown)
        | none =>
          let rest := (← get).rest
          match ["&&", "||", "|"].find? fun sign => sign.toList.isPrefixOf rest with
          | some sign =>
            skip sign.length
            pure (some sign.toList)
          | none => pure none
    match piece with
    | none => return none
    | some found => return (← tellings fuel).map fun others => found :: others

/-- How commands are told that a piece of a script holds: simple ones with one blank between all parts.
The plain shell tells nothing of them. -/
def shownFrom (large : Bool) (taken : List Char) : List Char :=
  if !large then []
  else
    let isBlank (c : Char) : Bool := isGap c || c == '\n'
    let chars := ((taken.dropWhile isBlank).reverse.dropWhile isBlank).reverse
    match (tellings (chars.length + 1)).run { rest := chars, dialect := .large } with
    | .ok (some found, _) => [' '].intercalate found
    | _ => chars

/-- Whether a command starts that is no simple one. -/
def opensCommand (rest : List Char) : Bool :=
  let bare := rest.takeWhile fun c => !endsWord c
  rest.head? == some '(' ||
    ["if", "while", "until", "for", "case", "select", "\x7b", "[["].any fun known => known.toList == bare

/-- Whether the list of commands ends here. -/
def atEnd : Reading Bool := do
  gap
  let large ← isLarge
  match (← get).rest with
  | [] | ')' :: _ | ';' :: ';' :: _ => return true
  | ';' :: '&' :: _ => return large
  | _ =>
    let bare ← bareWord
    return closers.any fun name => name.toList == bare

/-- Operators of conditions on one word. -/
def isUnaryOperator (chars : List Char) : Bool :=
  match chars with
  | ['-', c] => "abcdefghknoprstuvwxzGLNORS".toList.contains c
  | _ => false

/-- Operators of conditions on two words. -/
def binaryOperators : List String :=
  ["==", "!=", "=~", "=", "<", ">", "-eq", "-ne", "-lt", "-le", "-gt", "-ge", "-nt", "-ot", "-ef"]

/-- A word that stands for a pattern that texts are searched for, which may have parentheses. -/
def searchWord (nested : Nested) : Nat → List Part → Reading Word
  | 0, parts => return merge parts
  | fuel + 1, parts => do
    match (← get).rest with
    | [] => return merge parts
    | '(' :: rest =>
      match enclosed? ')' false rest with
      | some (inner, left) =>
        skipTo left
        let inside := operand .large inner false
        searchWord nested fuel (parts ++ [.text ['('] false] ++ inside ++ [.text [')'] false])
      | none => stumble (.unclosed ")")
    | '|' :: '|' :: _ => return merge parts
    | '|' :: _ =>
      skip 1
      searchWord nested fuel (parts ++ [.text ['|'] false])
    | c :: _ =>
      if isGap c || c == '\n' || c == '&' || c == ')' || c == ';' then return merge parts
      else if endsWord c then
        skip 1
        searchWord nested fuel (parts ++ [.text [c] false])
      else
        let found ← wordParts nested false ((← get).rest.length + 1) []
        -- A character that starts a choice of patterns elsewhere repeats what is before it here.
        searchWord nested fuel (parts ++ found)

/-- What stands here, as the large shell names it. -/
def tokenHere : Reading (List Char) := do
  match (← get).rest with
  | [] | '\n' :: _ => return "newline".toList
  | c :: rest =>
    match operators.find? fun operator => operator.toList.isPrefixOf (c :: rest) with
    | some operator => return operator.toList
    | none => return if endsWord c then [c] else (c :: rest).takeWhile fun d => !endsWord d

/-- Stop within a condition; what has been read before shows it if the line is over. -/
def wrongCondition {α : Type} (start finish : String) (before : List Char) : Reading α := do
  let token ← tokenHere
  let isClosing := token == "]]".toList
  let after := ((← get).rest.drop token.length).dropWhile isGap
  let near ← match (← get).rest, after with
    | [], _ | '\n' :: _, _ => pure before
    -- The end of a condition is read, and what follows it shows where it is wrong.
    | c :: _, d :: _ => pure (if endsWord c then [c] else if isClosing && d != '\n' then
        (if endsWord d then [d] else after.takeWhile fun e => !endsWord e) else token)
    | c :: _, [] => pure (if endsWord c then [c] else token)
  stumble (.wrongCondition (if start.isEmpty then [] else start.toList ++ token ++ finish.toList) near)

/-- A word of a condition that an operator asks for. -/
def conditionWord (nested : Nested) (kind : String) (before : List Char) : Reading Word := do
  let wrong : Reading Word :=
    wrongCondition "unexpected argument \x60" ("' to conditional " ++ kind ++ " operator") before
  if (← bareWord) == "]]".toList then wrong
  else
    match ← word? nested with
    | some word => return word
    | none => wrong

mutual

/-- A condition between double brackets: one of several must hold. -/
def disjunction (nested : Nested) : Nat → Reading Condition
  | 0 => stumble (.ended none)
  | fuel + 1 => do
    let first ← conjunction nested fuel
    linebreak
    if ← take? "||" then
      linebreak
      return .either first (← disjunction nested fuel)
    else return first

/-- Several conditions that must all hold. -/
def conjunction (nested : Nested) : Nat → Reading Condition
  | 0 => stumble (.ended none)
  | fuel + 1 => do
    let first ← primary nested fuel
    linebreak
    if ← take? "&&" then
      linebreak
      return .both first (← conjunction nested fuel)
    else return first

/-- A condition without connectives. -/
def primary (nested : Nested) : Nat → Reading Condition
  | 0 => stumble (.ended none)
  | fuel + 1 => do
    linebreak
    if ← reserved? "!" then return .negated (← primary nested fuel)
    else if ← take? "(" then
      let inner ← disjunction nested fuel
      linebreak
      if ← take? ")" then return inner else wrongCondition "unexpected token \x60" "', expected \x60)'" []
    else
      let bare ← bareWord
      let isUnary := isUnaryOperator bare
      let start := (← get).rest
      if start.isEmpty then stumble (.wrongCondition "unexpected token \x60EOF' in conditional command".toList [])
      if bare == "]]".toList then wrongCondition "" "" []
      let some first ← word? nested | wrongCondition "unexpected token \x60" "' in conditional command" []
      let before := start.take (start.length - (← get).rest.length)
      gap
      let next ← bareWord
      let rest := (← get).rest
      let operator? := binaryOperators.find? fun name =>
        if name == "<" || name == ">" then name.toList.isPrefixOf rest && next.isEmpty
        else name.toList == next
      match operator? with
      | some "=~" =>
        skip 2
        gap
        if (← bareWord) == "]]".toList then
          wrongCondition "unexpected argument \x60" "' to conditional binary operator" "=~".toList
        let second ← searchWord nested (rest.length + 1) []
        return .binary "=~".toList first second
      | some operator =>
        skip operator.length
        gap
        let second ← conditionWord nested "binary" operator.toList
        return .binary operator.toList first second
      | none =>
        if isUnary then return .unary bare (← conditionWord nested "unary" before)
        else
          let isOver := next == "]]".toList || rest.head? == some ')' ||
            ["&&", "||"].any fun operator => operator.toList.isPrefixOf rest
          if isOver then return .filled first
          else if rest.head?.any fun c => !endsWord c then
            let token ← tokenHere
            stumble (.wrongCondition "conditional binary operator expected".toList token)
          else wrongCondition "unexpected token \x60" "', conditional binary operator expected" before

end

mutual

/-- The end of a script in parentheses. -/
def nested : Nat → Nested
  | 0 => fun source => .error { line := source.line, obstacle := .ended none }
  | fuel + 1 => fun source => do
    -- The script is only measured here, so that its words stay what they are.
    let (_, reached) ← (commandList fuel).run { source with aliases := [] }
    let (found, left) ← (take? ")").run { reached with aliases := source.aliases }
    if found then return left
    else
      match left.rest with
      | [] => .error ⟨left.line, .unclosed "$(", true⟩
      | _ =>
        let (_, other) ← ((unexpected (some ")") : Reading Unit)).run left
        return other

/-- A list of commands, up to where it ends. -/
def commandList : Nat → Reading Command
  | 0 => stumble (.ended none)
  | fuel + 1 => do
    linebreak
    replaceWords (← get).room
    if ← atEnd then return .nothing
    let start := (← get).rest
    let first ← andOr fuel
    gap
    let large ← isLarge
    match (← get).rest with
    | '&' :: left =>
      skip 1
      let rest ← commandList fuel
      return .sequence (.background first (shownFrom large (start.take (start.length - left.length - 1)))) rest
    | ';' :: ';' :: _ => return first
    | ';' :: c :: _ =>
      if c == '&' && large then return first
      skip 1
      match ← commandList fuel with
      | .nothing => return first
      | rest => return .sequence first rest
    | ';' :: _ | '\n' :: _ =>
      skip 1
      match ← commandList fuel with
      | .nothing => return first
      | rest => return .sequence first rest
    | _ => return first

/-- A list of commands that must not be empty. -/
def filledList : Nat → Reading Command
  | 0 => stumble (.ended none)
  | fuel + 1 => do
    match ← commandList fuel with
    | .nothing => if (← get).rest.isEmpty then return .nothing else unexpected none
    | found => return found

/-- Pipelines joined by `&&` and `||`. -/
def andOr : Nat → Reading Command
  | 0 => stumble (.ended none)
  | fuel + 1 => do
    let first ← pipeline fuel
    andOrRest fuel first

/-- What joins pipelines to those before. -/
def andOrRest : Nat → Command → Reading Command
  | 0, _ => stumble (.ended none)
  | fuel + 1, first => do
    if ← take? "&&" then
      linebreak
      let second ← pipeline fuel
      andOrRest fuel (.both first second)
    else if ← take? "||" then
      linebreak
      let second ← pipeline fuel
      andOrRest fuel (.either first second)
    else return first

/-- Commands joined by pipes. -/
def pipeline : Nat → Reading Command
  | 0 => stumble (.ended none)
  | fuel + 1 => do
    if ← reserved? "!" then
      gap
      let large ← isLarge
      match (← get).rest with
      | [] | '\n' :: _ | ';' :: _ => if large then return .negated .nothing else return .negated (← pipeline fuel)
      | _ => return .negated (← pipeline fuel)
    else if ← isLarge <&&> reserved? "time" then
      gap
      let portable ← reserved? "-p" <||> reserved? "--"
      gap
      match (← get).rest with
      | [] | '\n' :: _ | ';' :: _ => return .timed portable .nothing
      | _ => return .timed portable (← pipeline fuel)
    else
      let first ← command fuel
      match ← pipelineRest fuel first with
      | [only] => return only
      | commands => return .pipeline commands

/-- The commands of a pipeline, of which the first is known. -/
def pipelineRest : Nat → Command → Reading (List Command)
  | 0, _ => stumble (.ended none)
  | fuel + 1, first => do
    gap
    let large ← isLarge
    match (← get).rest with
    | '|' :: '|' :: _ => return [first]
    | '|' :: c :: _ =>
      let both := c == '&' && large
      skip (if both then 2 else 1)
      linebreak
      let next ← command fuel
      -- Both outputs go into the pipe.
      let kept := if both then
          .group first [{ target := .number 2, direction := .duplicateOutput, word := [.text ['1'] false] }]
        else first
      return kept :: (← pipelineRest fuel next)
    | '|' :: _ =>
      skip 1
      linebreak
      let next ← command fuel
      return first :: (← pipelineRest fuel next)
    | _ => return [first]

/-- The rest of a conditional after its test has been announced. -/
def conditionalRest : Nat → Reading Command
  | 0 => stumble (.ended none)
  | fuel + 1 => do
    let test ← filledList fuel
    reserved "then"
    let body ← filledList fuel
    if ← reserved? "elif" then return .conditional test body (← conditionalRest fuel) []
    else if ← reserved? "else" then
      let otherwise ← filledList fuel
      reserved "fi"
      return .conditional test body otherwise []
    else
      reserved "fi"
      return .conditional test body .nothing []

/-- The arms of a choice. -/
def arms : Nat → Reading (List (List Word × Command × AfterArm))
  | 0 => stumble (.ended none)
  | fuel + 1 => do
    linebreak
    if ← reserved? "esac" then return []
    let _ ← take? "("
    let found ← patterns (nested fuel) ((← get).rest.length + 1)
    let body ← commandList fuel
    linebreak
    let large ← isLarge
    if ← pure large <&&> take? ";;&" then return (found, body, .tryNext) :: (← arms fuel)
    else if ← take? ";;" then return (found, body, .leave) :: (← arms fuel)
    else if ← pure large <&&> take? ";&" then return (found, body, .fallThrough) :: (← arms fuel)
    else if ← reserved? "esac" then return [(found, body, .leave)]
    else unexpected (some ";;")

/-- The body of a loop. -/
def loopBody : Nat → Reading Command
  | 0 => stumble (.ended none)
  | fuel + 1 => do
    if ← isLarge <&&> reserved? "\x7b" then
      let body ← filledList fuel
      reserved "\x7d"
      return body
    else
      reserved "do"
      let body ← filledList fuel
      reserved "done"
      return body

/-- The rest of a loop over values, or of one that counts. -/
def forRest : Nat → Reading Command
  | 0 => stumble (.ended none)
  | fuel + 1 => do
    gap
    let source ← get
    let line := source.line
    let length := source.rest.length + 1
    match source.dialect, source.rest with
    | .large, '(' :: '(' :: rest =>
      match enclosed? ')' false rest with
      | some (inner, ')' :: left) =>
        skipTo left
        -- A term that is missing always holds.
        let terms := (inner.splitOn ';').map fun term =>
          let found := term.dropWhile fun c => isGap c || c == '\n'
          if found.isEmpty then ['1'] else found
        let _ ← take? ";"
        linebreak
        let body ← loopBody fuel
        return .count line (terms.headD []) ((terms.drop 1).headD []) ((terms.drop 2).headD []) body
          (← redirections (nested fuel) length)
      | _ => stumble (.unclosed ")")
    | dialect, _ =>
      let name ← bareWord
      if dialect = .plain && !isName name then stumbleHere .namelessLoop
      if name.isEmpty then cutOff none
      skip name.length
      linebreak
      let words ← if ← reserved? "in" then pure (some (← wordList (nested fuel) length)) else pure none
      gap
      match words, (← get).rest with
      | some _, '\n' :: _ | _, ';' :: _ => skip 1
      | some _, _ => unexpected none
      | none, _ => pure ()
      linebreak
      let body ← loopBody fuel
      let shown := match words with
        | some found => "in ".toList ++ [' '].intercalate (found.map (·.2))
        | none => "in \"$@\"".toList
      return .forEach line name (words.map fun found => found.map (·.1)) shown body
        (← redirections (nested fuel) length)

/-- The body of a function; the large shell does not take a simple command for one. -/
def functionBody : Nat → List Char → Reading Command
  | 0, _ => stumble (.ended none)
  | fuel + 1, name => do
    gap
    let rest := (← get).rest
    if (← isLarge) && !opensCommand rest then
      if rest.isEmpty then misplaced none else unexpected none
    else return .define name (← command fuel)

/-- One command with its redirections. -/
def command : Nat → Reading Command
  | 0 => stumble (.ended none)
  | fuel + 1 => do
    gap
    replaceWords (← get).room
    gap
    let source ← get
    let length := source.room
    let line := source.line
    let large := source.dialect = .large
    let bare ← bareWord
    match String.ofList bare with
    | "if" =>
      skip 2
      match ← conditionalRest fuel with
      | .conditional test body otherwise _ =>
        return .conditional test body otherwise (← redirections (nested fuel) length)
      | other => return other
    | "while" | "until" =>
      skip 5
      let test ← filledList fuel
      reserved "do"
      let body ← filledList fuel
      reserved "done"
      return .loop (bare == "while".toList) test body (← redirections (nested fuel) length)
    | "for" =>
      skip 3
      forRest fuel
    | "select" =>
      if !large then simpleCommand fuel source
      else
        skip 6
        match ← forRest fuel with
        | .forEach line name words shown body found => return .menu line name words shown body found
        | other => return other
    | "coproc" =>
      if !large then simpleCommand fuel source
      else
        skip 6
        gap
        let start := (← get).rest
        let first ← bareWord
        let after := (start.drop first.length).dropWhile isGap
        let isNamed := isName first && !opensCommand start && opensCommand after
        if isNamed then skip first.length
        gap
        let here := (← get).rest
        let inner ← command fuel
        let shown := shownFrom true (here.take (here.length - (← get).rest.length))
        let name := if isNamed then first else "COPROC".toList
        return .coprocess name inner ("coproc ".toList ++ name ++ ' ' :: shown)
    | "case" =>
      skip 4
      gap
      match ← writtenWord? (nested fuel) with
      | none => unexpected none
      | some (word, shown) =>
        linebreak
        reserved "in"
        let found ← arms fuel
        return .choice line word shown found (← redirections (nested fuel) length)
    | "\x7b" =>
      skip 1
      let body ← filledList fuel
      reserved "\x7d"
      return .group body (← redirections (nested fuel) length)
    | _ =>
      if large && bare == ['[', '['] then
        skip 2
        let found ← disjunction (nested fuel) length
        linebreak
        if !(← reserved? "]]") then
          match (← get).rest with
          | [] => misplaced none
          | c :: _ =>
            if c != '\n' && endsWord c then
              wrongCondition "syntax error in conditional expression: unexpected token \x60" "'" []
            else stumble (.wrongCondition "syntax error in conditional expression".toList (← tokenHere))
        let shown := source.rest.take (source.rest.length - (← get).rest.length)
        return .condition line found shown (← redirections (nested fuel) length)
      else if large && bare == "function".toList then
        skip 8
        let name ← bareWord
        skip name.length
        gap
        if "()".toList.isPrefixOf ((← get).rest.filter fun c => !isGap c) then
          let _ ← take? "("
          let _ ← take? ")"
        linebreak
        functionBody fuel name
      else
        match source.rest with
        | '(' :: inner =>
          let term? : Option (List Char × List Char) := match inner with
            | '(' :: rest =>
              match enclosed? ')' false rest with
              | some (term, ')' :: left) => if large then some (term, left) else none
              | _ => none
            | _ => none
          if large && inner.head? == some '(' && (enclosed? ')' false inner.tail).isNone then
            stumble (.unclosed "))")
          match term? with
          | some (term, left) =>
            skipTo left
            return .arithmetic line term (← redirections (nested fuel) length)
          | none =>
            skip 1
            let body ← filledList fuel
            if ← take? ")" then return .subshell body (← redirections (nested fuel) length)
            else unexpected (some ")")
        | _ => simpleCommand fuel source

/-- A simple command, or the definition of a function, from a place in a script on. -/
def simpleCommand : Nat → Source → Reading Command
  | 0, _ => stumble (.ended none)
  | fuel + 1, source => do
    let large := source.dialect = .large
    let bare ← bareWord
    if closers.any fun name => name.toList == bare then unexpected none
    let (assignments, words, found, line) ← simple large (nested fuel) source.room source.line
    gap
    match assignments, words, found, (← get).rest with
    | [], [_], [], '(' :: rest =>
      let written := source.rest.take (source.rest.length - rest.length - 1)
      let name := (written.reverse.dropWhile isGap).reverse
      match rest.dropWhile isGap with
      | ')' :: left =>
        skipTo left
        let isSpecial := specialCommands.any fun known => known.toList == name
        if !large && (!isName name || isSpecial) then stumble .namelessFunction
        linebreak
        functionBody fuel name
      | _ =>
        skip 1
        cutOff (some ")")
    | [], [], [], _ => unexpected none
    | _, _, _, rest =>
      let shown := source.rest.take (source.rest.length - rest.length)
      return .simple line assignments words found shown

end

/-- Commands up to the end of a line that ends no command; none at the end of the script. -/
def lineRest : Nat → Reading Command
  | 0 => stumble (.ended none)
  | fuel + 1 => do
    let start := (← get).rest
    let large ← isLarge
    let first ← andOr fuel
    gap
    let goOn (kept : Command) : Reading Command := do
      gap
      match (← get).rest with
      | [] => return kept
      | '\n' :: _ =>
        skip 1
        return kept
      | _ => return .sequence kept (← lineRest fuel)
    match (← get).rest with
    | [] => return first
    | '\n' :: _ =>
      skip 1
      return first
    | '&' :: left =>
      skip 1
      goOn (.background first (shownFrom large (start.take (start.length - left.length - 1))))
    | ';' :: ';' :: _ => unexpected none
    | ';' :: _ =>
      skip 1
      goOn first
    | _ => unexpected none

/-- The commands of the next line that is not empty, with the lines that belong to them; none at the
end of the script. -/
def line? : Reading (Option Command) := do
  linebreak
  let source ← get
  if source.rest.isEmpty then return none
  else return some (← lineRest (20 * source.room + 100))

/-- The elements of an array as they are written, with what tells their places. -/
def elements (chars : List Char) : List (Option (List Char) × Word) :=
  match (items (chars.length + 1)).run { rest := chars, dialect := .large } with
  | .ok (found, _) => found
  | .error _ => []
where
  /-- The elements that are still to be read. -/
  items : Nat → Reading (List (Option (List Char) × Word))
    | 0 => return []
    | fuel + 1 => do
      linebreak
      let rest := (← get).rest
      let (subscript, after) := subscript? rest
      match subscript, after with
      | some _, '=' :: value =>
        skipTo value
        let word := merge (← wordParts roughly false (rest.length + 1) [])
        return (subscript, word) :: (← items fuel)
      | _, _ =>
        match ← word? roughly with
        | none => return []
        | some word => return (none, word) :: (← items fuel)

end Umpire.Shell.Parser
