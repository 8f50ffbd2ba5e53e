import Proofreader.Regex
import Proofreader.Regex.Parse
import Proofreader.Regex.Match

/-!
# The backtracking engine

The engine this library runs rules with. A pattern is parsed in the dialect of `Regex.parse` and
matched by the backtracking matcher of `Regex.Parsed.matchAt`; a pattern it refuses is reported
with the engine's diagnostic. Nothing proved about rules depends on this engine: the theorems hold
for every `RegexEngine`, and this one is the instance that rules are run with.
-/

namespace Proofreader

namespace Regex

/-- The compiled program of a parsed pattern. A replacement sees the texts of the groups of each
match, read from the characters of the whole text. -/
def Parsed.program (p : Parsed) : RegexProgram where
  isMatch := p.matchesWhole
  replaceAll text rep :=
    let chars := text.toList.toArray
    p.replaceAll text fun m => rep (m.text chars)
  groupCount := p.groups

/-- The backtracking engine: case-blind compilation parses the pattern with the case option set
from the start. -/
def backtracking : RegexEngine where
  compile body caseless :=
    match parse body { caseless := caseless } with
    | .ok p => .ok p.program
    | .error e => .error e.message

end Regex

end Proofreader
