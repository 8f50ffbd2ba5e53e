import Proofreader.RuleSet
import Proofreader.RuleFile.Load
import Proofreader.RuleFile.Describe
import Proofreader.Json.Parse
import Proofreader.Json.Print

/-!
# The command line

`run --rules FILE [--tagger FILE] [--disambiguation FILE] [--strict] COMMAND` loads a rule file
(skipping rules that do not compile unless `--strict` is given), an optional word list and
optional disambiguation rules, and then runs one command:

* `check TEXT [--document]` prints the suggestions for the text, with `--document` also those
  of the document rules;
* `correct TEXT` prints the text with the first replacement of every suggestion applied;
* `test` checks the examples of all rules;
* `compile OUT` stores the compiled rules.

Arguments that do not fit this shape end the run with status 2 before any file is read; an
error while loading or running ends it with status 1 and the name of the error's kind.

Everything here is pure: reading the named files is left to the caller, which passes their
contents as a lookup from path to text, and so is the choice of the regex engine `E` that the
rules are compiled with.
-/

namespace Proofreader

namespace Cli

/-- A command of the command line. -/
inductive Command where
  | check (text : String) (document : Bool)
  | correct (text : String)
  | test
  | compile (out : String)
deriving Inhabited

/-- A complete, well-formed invocation. -/
structure Invocation where
  rules : String
  tagger : Option String := none
  disambiguation : Option String := none
  strict : Bool := false
  command : Command
deriving Inhabited

/-- What the arguments ask for. -/
inductive Request where
  | run (inv : Invocation)
  /-- The version line. -/
  | version
  /-- The help text. -/
  | help
  /-- No command was given: the help goes to the error stream. -/
  | noCommand
  /-- The arguments do not fit the command line. -/
  | usage (why : String)
deriving Inhabited

/-- The options given before the command. -/
structure Globals where
  rules : Option String := none
  tagger : Option String := none
  disambiguation : Option String := none
  strict : Bool := false

/-- The long name of a global option that takes a value, from its long or short spelling. -/
def valueOption? (flag : String) : Option String :=
  if flag = "--rules" || flag = "-r" then some "rules"
  else if flag = "--tagger" || flag = "-t" then some "tagger"
  else if flag = "--disambiguation" || flag = "-d" then some "disambiguation"
  else none

/-- Records a value for the named global option; giving one twice is refused. -/
def Globals.set (g : Globals) (name value : String) : Except String Globals :=
  match name with
  | "rules" => if g.rules.isSome then .error "--rules given twice" else .ok { g with rules := value }
  | "tagger" =>
    if g.tagger.isSome then .error "--tagger given twice" else .ok { g with tagger := value }
  | _ =>
    if g.disambiguation.isSome then .error "--disambiguation given twice"
    else .ok { g with disambiguation := value }

/-- Splits `--name=value` and `-xvalue` into the option and its attached value. -/
def attached (arg : String) : String × Option String :=
  if arg.startsWith "--" then
    match arg.splitOn "=" with
    | [a] => (a, none)
    | a :: rest => (a, some ("=".intercalate rest))
    | [] => (arg, none)
  else if arg.startsWith "-" && arg.length > 2 then
    let value := String.ofList (arg.toList.drop 2)
    (String.ofList (arg.toList.take 2), some (if value.startsWith "=" then value.drop 1 |>.toString else value))
  else (arg, none)

/-- Whether an argument is written as an option rather than a value. -/
def isFlag (arg : String) : Bool := arg.startsWith "-" && arg ≠ "-"

/-- Reads the arguments of a command: its positional values (after `--` everything is a value)
and whether `--document` was given. -/
def commandArgs (allowDocument : Bool) :
    List String → Bool → List String → Bool → Except String (List String × Bool)
  | [], _, values, document => .ok (values.reverse, document)
  | a :: rest, afterDashes, values, document =>
    if afterDashes then commandArgs allowDocument rest true (a :: values) document
    else if a = "--" then commandArgs allowDocument rest true values document
    else if a = "--document" && allowDocument then
      if document then .error "--document given twice"
      else commandArgs allowDocument rest false values true
    else if isFlag a then .error ("unexpected argument " ++ a)
    else commandArgs allowDocument rest false (a :: values) document

/-- Reads one command and its arguments. -/
def readCommand (name : String) (rest : List String) : Except String Command := do
  match name with
  | "check" =>
    match ← commandArgs true rest false [] false with
    | ([text], document) => pure (.check text document)
    | _ => throw "check takes one text"
  | "correct" =>
    match ← commandArgs false rest false [] false with
    | ([text], _) => pure (.correct text)
    | _ => throw "correct takes one text"
  | "test" =>
    match ← commandArgs false rest false [] false with
    | ([], _) => pure .test
    | _ => throw "test takes no arguments"
  | "compile" =>
    match ← commandArgs false rest false [] false with
    | ([out], _) => pure (.compile out)
    | _ => throw "compile takes one output file"
  | other => throw ("unknown command " ++ other)

/-- Reads the global options up to the command, then the command. -/
def readArgs : List String → Globals → Request
  | [], _ => .noCommand
  | a :: rest, g =>
    if a = "--version" || a = "-V" then .version
    else if a = "--help" || a = "-h" || (a = "help" && rest.isEmpty) then .help
    else if a = "--strict" then
      if g.strict then .usage "--strict given twice" else readArgs rest { g with strict := true }
    else if isFlag a then
      let (flag, value) := attached a
      match valueOption? flag, value with
      | some name, some v =>
        match g.set name v with
        | .ok g => readArgs rest g
        | .error why => .usage why
      | some name, none =>
        match _h : rest with
        | v :: rest' =>
          if isFlag v then .usage (flag ++ " needs a value")
          else match g.set name v with
            | .ok g => readArgs rest' g
            | .error why => .usage why
        | [] => .usage (flag ++ " needs a value")
      | _, _ => .usage ("unexpected argument " ++ a)
    else
      match g.rules, readCommand a rest with
      | some rules, .ok command =>
        .run { rules, tagger := g.tagger, disambiguation := g.disambiguation, strict := g.strict,
               command }
      | none, .ok _ => .usage "--rules is required"
      | _, .error why => .usage why
termination_by args => args.length
decreasing_by all_goals (subst_vars; simp only [List.length_cons]; omega)

/-- What a run prints and how it ends. -/
structure Outcome where
  status : Nat
  stdout : String := ""
  /-- The kind of the error that ended the run, or `usage` for refused arguments. -/
  error : Option String := none
  /-- The rules a `compile` stored. -/
  stored : Option RuleSet := none
deriving Inhabited

/-- A run ended by an error. -/
def Outcome.failed (e : Error) : Outcome := { status := 1, error := some e.kind }

/-! ## Printing suggestions for a reader -/

/-- Indentation by `n` levels of four spaces. -/
def indent (n : Nat) : String := String.ofList (List.replicate (4 * n) ' ')

/-- A suggestion laid out one field per line, as a diagnostic listing shows it. -/
def pretty (s : Suggestion) : String :=
  let field (name value : String) : String := indent 2 ++ name ++ ": " ++ value ++ ",\n"
  let replacements :=
    if s.replacements.isEmpty then "[]"
    else "[\n" ++ String.join (s.replacements.map fun r => indent 3 ++ Unicode.quoted r ++ ",\n") ++
      indent 2 ++ "]"
  let context := match s.sourceContext with
    | none => "None"
    | some (a, b) => "Some(\n" ++ indent 3 ++ "(\n" ++ indent 4 ++ toString a ++ ",\n" ++
        indent 4 ++ toString b ++ ",\n" ++ indent 3 ++ "),\n" ++ indent 2 ++ ")"
  indent 1 ++ "Suggestion \x7b\n" ++
    field "source" (Unicode.quoted s.source) ++ field "message" (Unicode.quoted s.message) ++
    field "start" (toString s.start) ++ field "end" (toString s.stop) ++
    field "replacements" replacements ++ field "source_context" context ++
    indent 1 ++ "\x7d,\n"

/-- A list of suggestions laid out for a reader, `[]` when empty. -/
def prettyList (ss : List Suggestion) : String :=
  if ss.isEmpty then "[]" else "[\n" ++ String.join (ss.map pretty) ++ "]"

/-! ## Running -/

/-- Reads a JSON file through the lookup: a missing file is an `io` error, text that is not
JSON a format error. -/
def readJson (read : String → Option String) (path : String) : Except Error Json :=
  match read path with
  | none => .error .io
  | some text => match Json.parse text with
    | some j => .ok j
    | none => .error .json

/-- Loads what the invocation names and runs its command. -/
def execute (E : RegexEngine) (inv : Invocation) (read : String → Option String) : Outcome :=
  let loaded : Except Error (Tokenizer × RuleSet) := do
    let tagger ← match inv.tagger with
      | none => pure {}
      | some p => match read p with
        | some text => pure (Tagger.ofText text)
        | none => throw .io
    let disambiguator ← match inv.disambiguation with
      | none => pure {}
      | some p => Disambiguator.ofJson E (← readJson read p)
    let rules ← RuleSet.ofJson E (← readJson read inv.rules) { allowErrors := !inv.strict }
    pure ({ tagger, disambiguator }, rules)
  match loaded with
  | .error e => .failed e
  | .ok (tokenizer, rules) =>
    match inv.command with
    | .check text document =>
      let found := if document then rules.checkDocument tokenizer text
        else rules.suggest tokenizer text
      { status := 0, stdout := prettyList found ++ "\n" }
    | .correct text => { status := 0, stdout := rules.correct tokenizer text ++ "\n" }
    | .test => match rules.test tokenizer with
      | .ok () => { status := 0 }
      | .error e => .failed e
    | .compile _ => { status := 0, stored := some rules }

/-- The version line. -/
def versionLine : String := "nlpattern 0.1.0\n"

/-- The help text: what the program does, its usage, its options and its commands. -/
def helpText : String :=
  "\n".intercalate [
    "nlpattern 0.1.0",
    "The nlpattern developers",
    "Pattern-rule matching over ambiguous, annotated token streams for proofreading.",
    "",
    "USAGE:",
    "    run [OPTIONS] --rules <RULES> <SUBCOMMAND>",
    "",
    "OPTIONS:",
    "    -d, --disambiguation <DISAMBIGUATION>",
    "            Disambiguation rules in JSON format",
    "",
    "    -h, --help",
    "            Print help information",
    "",
    "    -r, --rules <RULES>",
    "            Rule file in JSON format",
    "",
    "        --strict",
    "            Fail if any rule can not be compiled instead of skipping it",
    "",
    "    -t, --tagger <TAGGER>",
    "            Tagger dictionary with `word<TAB>lemma<TAB>tag` lines",
    "",
    "    -V, --version",
    "            Print version information",
    "",
    "SUBCOMMANDS:",
    "    check      Prints the suggestions for a text",
    "    compile    Writes the compiled rules as binary",
    "    correct    Prints the corrected text",
    "    help       Print this message or the help of the given subcommand(s)",
    "    test       Checks the examples of all rules",
    ""]

/-- Runs the command line on its arguments, reading files through the lookup. -/
def run (E : RegexEngine) (args : List String) (read : String → Option String) : Outcome :=
  match readArgs args {} with
  | .run inv => execute E inv read
  | .version => { status := 0, stdout := versionLine }
  | .help => { status := 0, stdout := helpText }
  | .noCommand => { status := 2 }
  | .usage _ => { status := 2, error := some "usage" }

end Cli

end Proofreader
