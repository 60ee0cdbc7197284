import Scratchpad.Shell.Differing.Trees
import Scratchpad.Shell.Sed.Call
import Scratchpad.Shell.Tools.Arguments
import Scratchpad.Shell.Tools.Blocks
import Scratchpad.Shell.Tools.Characters
import Scratchpad.Shell.Tools.Columns
import Scratchpad.Shell.Tools.Copying
import Scratchpad.Shell.Tools.Counting
import Scratchpad.Shell.Tools.Dates
import Scratchpad.Shell.Tools.Digests
import Scratchpad.Shell.Tools.Dump
import Scratchpad.Shell.Tools.Encoding
import Scratchpad.Shell.Tools.Expression
import Scratchpad.Shell.Tools.Factoring
import Scratchpad.Shell.Tools.Joining
import Scratchpad.Shell.Tools.Listing
import Scratchpad.Shell.Tools.Names
import Scratchpad.Shell.Tools.Precedence
import Scratchpad.Shell.Tools.Printing
import Scratchpad.Shell.Tools.Search
import Scratchpad.Shell.Tools.Sorting
import Scratchpad.Shell.Tools.Transfers

/-!
# The toolbox

All tools of a machine by their names.
-/

namespace Scratchpad.Shell.Tools

/-- The tools that write what they are told, or nothing. -/
def printers : List (String × Tool) :=
  [("echo", echo), ("printf", printf), ("true", succeed), ("false", fail), ("sleep", sleep),
    ("yes", yes), ("seq", seq), ("expr", expr), ("factor", factor)]

/-- The tools that hand on what they read, or parts or rows of it. -/
def filters : List (String × Tool) :=
  [("cat", cat), ("head", head), ("tail", tail), ("tee", tee), ("dd", dd), ("wc", wc),
    ("uniq", uniq), ("sort", sort), ("comm", comm), ("join", join), ("tsort", tsort), ("tr", tr),
    ("cut", cut), ("nl", nl), ("fold", fold), ("expand", expand), ("unexpand", unexpand),
    ("paste", paste), ("rev", rev), ("tac", tac), ("grep", grep), ("egrep", grepWith "-E"),
    ("fgrep", grepWith "-F"), ("sed", sed), ("cmp", cmp),
    ("diff", Differing.diff)]

/-- The tools that write bytes in another form. -/
def encoders : List (String × Tool) :=
  [("od", od), ("base64", base64), ("base32", base32), ("basenc", basenc), ("cksum", cksum),
    ("sum", sum)] ++ digestKinds.map fun k => (k.tool, digestTool k)

/-- The tools for names of files, and those that say where they run. -/
def namers : List (String × Tool) :=
  [("basename", basename), ("dirname", dirname), ("readlink", readlink), ("realpath", realpath),
    ("which", which), ("pwd", pwd), ("whoami", whoami), ("id", idOf), ("groups", groups),
    ("uname", uname), ("arch", arch), ("tty", tty),
    ("getopt", getopt), ("date", date)]

/-- The tools that change files or show them. -/
def filers : List (String × Tool) :=
  [("ls", ls), ("mkdir", mkdir), ("rmdir", rmdir), ("rm", rm), ("touch", touch), ("cp", cp),
    ("mv", mv), ("ln", ln), ("mktemp", mktemp), ("truncate", truncate), ("unlink", unlink),
    ("link", link), ("sync", succeed), ("mkfifo", mkfifo), ("mknod", mknod), ("install", install),
    ("chmod", chmod), ("chown", changeOwner "chown"), ("chgrp", changeOwner "chgrp"), ("stat", stat),
    ("du", du)]

def table : List (String × Tool) :=
  printers ++ filters ++ encoders ++ namers ++ filers

def find? (name : String) : Option Tool :=
  table.lookup name

end Scratchpad.Shell.Tools
