import Conformance.Computer.Utility.Arrange
import Conformance.Computer.Utility.Blocks
import Conformance.Computer.Utility.Checksum
import Conformance.Computer.Utility.Columns
import Conformance.Computer.Utility.Compare
import Conformance.Computer.Utility.Copy
import Conformance.Computer.Utility.Count
import Conformance.Computer.Utility.Difference
import Conformance.Computer.Utility.Directory
import Conformance.Computer.Utility.Dump
import Conformance.Computer.Utility.Edit.Run
import Conformance.Computer.Utility.Entries
import Conformance.Computer.Utility.Expression
import Conformance.Computer.Utility.Launching
import Conformance.Computer.Utility.LineNumbers
import Conformance.Computer.Utility.Merge
import Conformance.Computer.Utility.Order
import Conformance.Computer.Utility.Person
import Conformance.Computer.Utility.Pieces
import Conformance.Computer.Utility.Records.Run
import Conformance.Computer.Utility.Seek.Run
import Conformance.Computer.Utility.Sequence
import Conformance.Computer.Utility.Switches
import Conformance.Computer.Utility.Test
import Conformance.Computer.Utility.Translate

/-!
# The installed programs

The programs that a machine has besides its shells, by their names.
-/

namespace Conformance

namespace Utility

/-- A program that ends at once, whatever it is given. -/
def ending (status : Nat) (c : Context) : Answer :=
  match c.args with
  | [a] =>
      if a = "--version".toList || a = "--help".toList then
        withOptions c (if status = 0 then "true" else "false") status "" [] fun _ => .status c status
      else .status c status
  | _ => .status c status

def digestPrograms : List (String × (Context → Answer)) :=
  (Checksum.algorithms.filter (·.1 != "blake2b")).map fun (name, a) =>
    (name ++ "sum", Checksum.summing (name ++ "sum") a)

def catalogue : List (String × (Context → Answer)) :=
  [("true", ending 0), ("false", ending 1), ("echo", Format.echoProgram),
    ("printf", Format.printfProgram), ("test", Test.program "test"), ("[", Test.program "["),
    ("cat", Excerpt.cat), ("head", Excerpt.head), ("tail", Excerpt.tail), ("cut", Excerpt.cut),
    ("split", Pieces.split), ("csplit", Pieces.csplit), ("sort", Order.sort), ("uniq", Order.uniq), ("comm", Merge.comm),
    ("join", Merge.join), ("tr", Translate.tr), ("rev", Translate.rev), ("tac", Translate.tac),
    ("nl", LineNumbers.nl), ("fold", Columns.fold), ("expand", Columns.expandProgram),
    ("unexpand", Columns.unexpand), ("paste", Columns.paste), ("wc", Count.wc),
    ("cksum", Checksum.cksum), ("base64", Encoding.base64), ("od", Dump.od),
    ("base32", Encoding.base32), ("sum", Checksum.sum), ("b2sum", Checksum.b2sum),
    ("seq", Sequence.seq),
    ("yes", Sequence.yes), ("factor", Sequence.factor), ("cmp", Compare.cmp),
    ("diff", Difference.diff), ("sleep", Clock.sleep), ("date", Clock.date),
    ("grep", Search.run (.regex .basic)), ("egrep", Search.run (.regex .extended)),
    ("fgrep", Search.run .fixed), ("sed", Edit.run),
    ("awk", Records.awk "awk"), ("mawk", Records.awk "mawk"), ("expr", Expression.expr),
    ("touch", Files.touch), ("rm", Files.rm), ("mkdir", Files.mkdir), ("rmdir", Files.rmdir),
    ("mkfifo", Files.mkfifo), ("mktemp", Files.mktemp), ("truncate", Files.truncate),
    ("chmod", Files.chmod), ("cp", Transfer.cp), ("mv", Transfer.mv), ("ln", Transfer.ln),
    ("install", Transfer.install), ("tee", Copy.tee), ("dd", Blocks.dd), ("ls", Directory.ls), ("dir", Directory.dir), ("vdir", Directory.vdir),
    ("stat", Directory.stat), ("basename", Names.basename), ("dirname", Names.dirname),
    ("readlink", Names.readlink), ("realpath", Names.realpath), ("pwd", Names.pwd),
    ("env", Launching.env), ("printenv", Launching.printenv), ("nice", Launching.nice),
    ("nohup", Launching.nohup), ("setsid", Launching.setsid), ("stdbuf", Launching.stdbuf),
    ("timeout", Launching.timeout), ("xargs", Launching.xargs), ("find", Seek.find), ("kill", Launching.kill),
    ("whoami", Person.whoami), ("groups", Person.groups), ("logname", Person.logname), ("id", Person.identity),
    ("uname", Person.uname), ("hostname", Person.telling "localhost"),
    ("arch", Person.telling "x86_64"), ("nproc", Person.telling "1"), ("tty", Person.tty),
    ("which", Person.which), ("sync", ending 0), ("link", Entries.link), ("unlink", Entries.unlink),
    ("pathchk", Entries.pathchk), ("tsort", Arrange.tsort), ("shuf", Arrange.shuf),
    ("getopt", Switches.getopt)] ++ digestPrograms

def program? (name : String) : Option (Context → Answer) := catalogue.lookup name

end Utility

end Conformance
