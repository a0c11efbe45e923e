import Umpire.Shell.Builtin.Basic
import Umpire.Shell.Child

/-! The jobs of a shell: processes in the background, and the words that name them. -/

namespace Umpire.Shell

namespace Session

/-- The number that the next job gets. -/
def nextJob (shell : Session) : Nat :=
  let known := shell.jobs.map (·.number)
  match shell.dialect with
  | .plain => ((List.range (known.length + 1)).find? fun n => !known.contains (n + 1)).getD 0 + 1
  | .large => known.foldr max 0 + 1

/-- The numbers of the jobs that have not ended, from the one that was started last. -/
def recentJobs (shell : Session) : List Nat :=
  (shell.jobs.map (·.number)).reverse.eraseDups

/-- The number of the job that a word means, without its sign. -/
def jobNumber? (shell : Session) (name : List Char) : Option Nat :=
  let recent := shell.recentJobs
  let ofText (fits : List Char → Bool) : Option Nat :=
    if shell.isLarge then (shell.jobs.find? fun (job : Job) => fits job.shown).map (·.number) else none
  match Builtin.natural? name with
  | some number =>
    if (shell.jobs ++ shell.ended.map (·.1)).any fun (job : Job) => job.number = number then some number
    else none
  | none =>
    match name with
    | [] | ['+'] | ['%'] => recent.head?
    | ['-'] => (recent.drop 1).head?.orElse fun _ => if shell.isLarge then recent.head? else none
    | '?' :: text => ofText fun shown => (List.range (shown.length + 1)).any fun start =>
        text.isPrefixOf (shown.drop start)
    | text => ofText fun shown => text.isPrefixOf shown

/-- The wording for a word that names no job. -/
def noJob (shell : Session) (name : List Char) : List Char :=
  match shell.dialect, name with
  | .plain, [] | .plain, ['+'] | .plain, ['%'] => ascii "No current job"
  | .plain, ['-'] => ascii "No previous job"
  | .plain, _ => ascii "No such job: %" ++ name
  | .large, _ => '%' :: name ++ ascii ": no such job"

end Session

/-- Take note of a job whose process has ended. -/
def noteEnd (child : Nat) (status : WaitStatus) : Doing Unit :=
  change fun kept => { kept with
    jobs := kept.jobs.filter fun (job : Job) => job.process != child
    ended := ((kept.jobs.filter fun (job : Job) => job.process = child).map fun job =>
      (job, status)) ++ kept.ended }

/-- Take note of all jobs that have ended by now. -/
def noteEnds : Doing Unit := do
  for job in (← get).jobs do
    match ← ask (.reap (some job.process) false) with
    | .ok (some (_, status)) => noteEnd job.process status
    | _ => pure ()

namespace Builtin

/-- What the plain shell says of a job that has ended. -/
def endText (status : WaitStatus) : List Char :=
  match status.code? with
  | some 0 => ascii "Done"
  | some code => ascii "Done(" ++ numeral code ++ [')']
  | none => ascii (signalText ((status.signal?).getD 0))

/-- One line about a job: what has become of it, and the processes that are shown. -/
def jobLine (shell : Session) (withProcess : Bool) (number : Nat) : List Char :=
  let running := (shell.jobs ++ shell.elder).filter fun (job : Job) => job.number = number
  let past := (shell.ended.filter fun item => item.1.number = number).reverse
  let alive := (shell.jobs ++ shell.elder).map (·.number)
  -- The job that was started last is the current one, and the one before it the previous one.
  let mark := match ((alive.filter fun other => number < other).eraseDups).length with
    | 0 => '+'
    | 1 => '-'
    | _ => ' '
  let process : List Char := if withProcess then
      match running.head?.orElse fun _ => past.head?.map (·.1) with
      | some job => numeral job.process ++ [' ']
      | none => []
    else []
  let filled (width : Nat) (chars : List Char) : List Char := chars ++ List.replicate (width - chars.length) ' '
  match shell.dialect with
  | .plain =>
    let state := if running.isEmpty then (past.getLast?.map fun item => endText item.2).getD [] else ascii "Running"
    let others := running.length + past.length - 1
    let start := ['['] ++ numeral number ++ ascii "] " ++ mark :: ' ' :: process ++ state
    filled 33 start ++ (List.replicate others (ascii " | ")).flatten ++ ['\n']
  | .large =>
    let shown := (running.head?.map (·.shown)).getD []
    ['['] ++ numeral number ++ [']', mark, ' '] ++ (if withProcess then process else [' ']) ++
      filled 24 (ascii "Running") ++ shown ++ ascii " &\n"

/-- Show jobs. -/
def jobs : Builtin := fun words => do
  let before ← get
  withOptions "jobs" "jobs [-lnprs] [jobspec ...] or jobs -x command [args]"
    (if before.isLarge then "lnprsx" else "lp") "" words fun chosen => do
      noteEnds
      let shell ← get
      let all := (shell.jobs ++ shell.elder ++ if shell.isLarge then [] else shell.ended.map (·.1)).map (·.number)
      let numbers := (all.mergeSort fun a b => a ≤ b).eraseDups
      let ordered := if shell.isLarge then numbers else numbers.reverse
      let name (word : List Char) : List Char := if word.head? == some '%' then word.tail else word
      let mut status := 0
      let mut wanted : List Nat := []
      for word in chosen.words do
        match shell.jobNumber? (name word) with
        | some number => wanted := wanted ++ [number]
        | none => status ← fault "jobs" (shell.noJob (name word)) (if shell.isLarge then 1 else 2)
      for number in if chosen.words.isEmpty then ordered else wanted do
        if chosen.has 'p' then
          let first := ((shell.jobs ++ shell.elder).filter fun (job : Job) => job.number = number).head?
          let _ ← print "jobs" ((first.map fun job => numeral job.process ++ ['\n']).getD [])
        else if !(chosen.has 's' || chosen.has 'n' || chosen.has 'x') then
          let _ ← print "jobs" (jobLine shell (chosen.has 'l') number)
      -- The plain shell forgets the jobs that it has told the ends of.
      if !shell.isLarge then
        let isAlive (number : Nat) : Bool := shell.jobs.any fun (job : Job) => job.number = number
        change fun kept => { kept with ended := kept.ended.filter fun item => isAlive item.1.number }
      return status

/-- Bring a job to the front or let it go on, which takes a terminal. -/
def resume (name : String) : Builtin := fun words => do
  let shell ← get
  let job := words.headD []
  match shell.dialect with
  | .large => told name (ascii "no job control") 1
  | .plain =>
    let bare := if job.head? == some '%' then job.tail else job
    match shell.jobNumber? bare with
    | none => fault name (shell.noJob bare) 2
    | some number => fault name (ascii "job %" ++ numeral number ++ ascii " not created under job control") 2

/-- Forget jobs. -/
def disown : Builtin := fun words => do
  withOptions "disown" "disown [-h] [-ar] [jobspec ... | pid ...]" "ahr" "" words fun chosen => do
    let shell ← get
    let forget (fits : Job → Bool) : Doing Unit :=
      change fun kept => { kept with jobs := kept.jobs.filter fun (job : Job) => !fits job }
    if chosen.has 'a' then
      forget fun _ => true
      return 0
    else
      let mut status := 0
      for word in if chosen.words.isEmpty then [[]] else chosen.words do
        let found : Option Nat := match word with
          | '%' :: name => shell.jobNumber? name
          | [] => shell.recentJobs.head?
          | _ => (natural? word).bind fun process =>
            (shell.jobs.find? fun (job : Job) => job.process = process).map (·.number)
        match found with
        | some number => forget fun job => job.number = number
        | none =>
          let shown := if word.isEmpty then ascii "current" else word
          status ← told "disown" (shown ++ ascii ": no such job") 1
      return status

end Builtin

end Umpire.Shell
