import Umpire.Host.Image
import Umpire.Program
import Umpire.Shell.Start
import Umpire.Tool.Batch
import Umpire.Tool.Blocks
import Umpire.Tool.Editor
import Umpire.Tool.Errands
import Umpire.Tool.Filters
import Umpire.Tool.Listing
import Umpire.Tool.Ordering
import Umpire.Tool.Searching
import Umpire.Tool.Sequence
import Umpire.Tool.Streams

/-! The catalogue of the programs that the host provides. -/

namespace Umpire.Tool.Catalogue

open Host

/-- A program that takes note only of the words after its own name. -/
def plain (tool : List Bytes → Talk Nat) : List Bytes → Talk Nat :=
  fun words => tool words.tail

/-- The programs that are found by their names. -/
def common : List (String × (List Bytes → Talk Nat)) :=
  [("sh", Shell.program .plain), ("dash", Shell.program .plain), ("bash", Shell.program .large),
    ("true", fun _ => return 0), ("false", fun _ => return 1),
    ("echo", plain echo), ("printf", plain printf), ("test", plain (test false)),
    ("[", plain (test true)), ("basename", plain basename), ("dirname", plain dirname),
    ("expr", plain expr), ("seq", plain seq), ("sleep", plain sleep), ("kill", plain kill),
    ("env", plain env), ("printenv", plain printenv), ("nohup", plain nohup), ("setsid", plain setsid),
    ("stdbuf", plain stdbuf), ("nice", plain nice), ("timeout", plain timeout), ("xargs", plain Batch.xargs),
    ("cat", plain cat), ("tee", plain tee), ("yes", plain yes), ("head", plain head),
    ("tail", plain tail), ("wc", plain wc), ("tr", plain tr), ("cut", plain cut), ("tac", plain tac),
    ("rev", plain rev), ("nl", plain nl), ("paste", plain paste), ("fold", plain fold),
    ("sort", plain sort), ("uniq", plain uniq), ("cmp", plain cmp), ("od", plain od), ("dd", plain dd),
    ("grep", plain grep), ("egrep", plain (grepAs 'E')), ("fgrep", plain (grepAs 'F')),
    ("sed", plain Editor.sed),
    ("mv", plain mv), ("cp", plain cp), ("rm", plain rm), ("unlink", plain unlink),
    ("rmdir", plain rmdir), ("mkdir", plain mkdir), ("mkfifo", plain mkfifo), ("touch", plain touch),
    ("ln", plain ln), ("link", plain link), ("chmod", plain chmod), ("truncate", plain truncate),
    ("mktemp", plain mktemp), ("readlink", plain readlink), ("realpath", plain realpath),
    ("pwd", plain pwd), ("stat", plain stat), ("ls", plain ls), ("id", plain id),
    ("whoami", plain whoami), ("which", plain which)]

/-- The name of the umpire itself, which is not found by its name alone. -/
def umpire : String := "umpire"

/-- What each program does. -/
def programs : Image → Talk Nat := fun image =>
  match ((umpire, Program.run) :: common).lookup image.tool with
  | some program => program image.words
  | none => return 127

end Umpire.Tool.Catalogue
