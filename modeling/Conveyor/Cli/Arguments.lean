import Conveyor.Text.Basic
import Conveyor.Text.Digits
import Conveyor.Cli.Layout

/-!
# The command line

The program is called as `build_pipeline [--config PATH] COMMAND ...` with one of
three commands:

* `run [--track NAME]... [--dry-run]` runs the pipeline, or with `--dry-run`
  prints its plan;
* `list-tracks` prints the plan of every track;
* `history` summarises past runs.

Each parser (the program's, and one per command) first classifies every argument
up to the first `--`, which is a *separator*; everything after it is a plain
argument. An argument is an *option* when it starts with `-` and names one of the
parser's options: exactly; or before an `=`, which gives its value; or as the
unique prefix of a long option (`--he` for `--help`); or, for the short `-h`, as
`-h` followed by more text, which is its *attached* text. A prefix of several
long options is refused as ambiguous. Other arguments that start with `-` are
*unknown options*, unless they look like a negative number (a `-` and decimal
digits of any script, with at most one point) or hold a space: those are plain.

Reading then goes left to right. An option that takes a value takes its `=` text,
or else the next argument, which must be plain. An option that takes none refuses
a value after `=`; attached text after `-h` is read as more short options, each
of which must be `-h` again. An unknown option is kept aside. The first plain
argument (or separator and plain argument) names the command, and takes every
argument after it to the command's parser. Arguments no parser takes are kept
aside too, and all those kept aside are refused together at the end.

The value `--` given to an option is dropped, which leaves the option an empty
list. `-h` or `--help` prints the help of the parser that reads it and ends with
status 0; any error prints that parser's usage and a message on the error stream
and ends with status 2. Help and usage are laid out for the terminal width.
-/

namespace Conveyor.Cli

set_option autoImplicit false

/-- What an option does when it is given. -/
inductive OptionKind where
  /-- Prints the parser's help and ends the command line. -/
  | help
  /-- Keeps its value; the last one given wins. -/
  | keep
  /-- Collects every value given, in order. -/
  | collect
  /-- Turns a switch on. -/
  | switch
  deriving DecidableEq

/-- An option: its spellings, what it does, the name of its value, and its help. -/
structure OptionSpec where
  names : List String
  kind : OptionKind
  metavar : String := ""
  help : String

namespace OptionSpec

def takesValue (o : OptionSpec) : Bool :=
  o.kind == .keep || o.kind == .collect

def label (o : OptionSpec) : String :=
  "/".intercalate o.names

def usagePart (o : OptionSpec) : String :=
  "[" ++ o.names.headD "" ++ (if o.takesValue then " " ++ o.metavar else "") ++ "]"

def invocation (o : OptionSpec) : String :=
  if o.takesValue then ", ".intercalate (o.names.map (· ++ " " ++ o.metavar))
  else ", ".intercalate o.names

end OptionSpec

def helpOption : OptionSpec :=
  ⟨["-h", "--help"], .help, "", "show this help message and exit"⟩

def configOption : OptionSpec :=
  ⟨["--config"], .keep, "CONFIG_PATH", "Load this config file only"⟩

def trackOption : OptionSpec :=
  ⟨["--track"], .collect, "TRACKS", "Run only this track (repeatable)"⟩

def dryRunOption : OptionSpec :=
  ⟨["--dry-run"], .switch, "", "Print the plan without running it"⟩

/-- The parsers: the program's own and one per command. -/
inductive Parser where
  | main
  | run
  | listTracks
  | history
  deriving DecidableEq

def programName : String := "build_pipeline"

def commands : List (String × String) :=
  [("run", "Run all tracks concurrently"),
   ("list-tracks", "List configured tracks and their stages"),
   ("history", "Summarize past runs from the run index")]

def commandMetavar : String :=
  "\x7b" ++ ",".intercalate (commands.map (·.1)) ++ "\x7d"

def Parser.ofCommand? : String → Option Parser
  | "run" => some .run
  | "list-tracks" => some .listTracks
  | "history" => some .history
  | _ => none

namespace Parser

def prog : Parser → String
  | .main => programName
  | .run => programName ++ " run"
  | .listTracks => programName ++ " list-tracks"
  | .history => programName ++ " history"

def options : Parser → List OptionSpec
  | .main => [helpOption, configOption]
  | .run => [helpOption, trackOption, dryRunOption]
  | _ => [helpOption]

def argumentParts : Parser → List String
  | .main => [commandMetavar, "..."]
  | _ => []

def usage (p : Parser) (width : Int) : String :=
  "usage: " ++ usageBody p.prog (p.options.map OptionSpec.usagePart) p.argumentParts width ++ "\n"

def help (p : Parser) (width : Int) : String :=
  let arguments : List HelpEntry :=
    if p == .main then [⟨commandMetavar, none, commands⟩] else []
  let options := p.options.map fun o => (⟨o.invocation, some o.help, []⟩ : HelpEntry)
  helpText p.prog (p.options.map OptionSpec.usagePart) p.argumentParts
    [("positional arguments", arguments), ("options", options)] width

def spellings (p : Parser) : List (String × OptionSpec) :=
  p.options.flatMap fun o => o.names.map fun n => (n, o)

def lookup (p : Parser) (name : String) : Option OptionSpec :=
  p.spellings.lookup name

end Parser

/-- How a command line ends before any command runs: the help text on standard output
with status 0, or a usage error on the error stream with status 2. -/
structure Stop where
  code : Nat
  stdout : String
  stderr : String

def Parser.fail (p : Parser) (width : Int) (message : String) : Stop :=
  ⟨2, "", p.usage width ++ p.prog ++ ": error: " ++ message ++ "\n"⟩

def splitAtEquals (s : String) : String × Option String :=
  match s.splitOn "=" with
  | name :: v :: more => (name, some ("=".intercalate (v :: more)))
  | _ => (s, none)

def looksNegative (s : String) : Bool :=
  match s.toList with
  | '-' :: rest =>
    let body := if rest.getLast? == some '\n' then rest.dropLast else rest
    let isDigit := fun (c : Char) => (Text.digitValue? c).isSome
    let whole := body.takeWhile isDigit
    match body.drop whole.length with
    | [] => !whole.isEmpty
    | '.' :: frac => !frac.isEmpty && frac.all isDigit
    | _ => false
  | _ => false

/-- What one argument is to a parser. -/
inductive ArgClass where
  /-- A plain argument. -/
  | plain
  /-- The first `--`. -/
  | separator
  /-- An option, with the spelling it was found under and the text given with it. -/
  | option (spec : OptionSpec) (name : String) (given : Option String)
  /-- Something that looks like an option this parser does not have. -/
  | unknownOption

/-- The readings of an argument as an option by prefix: at `=` for a long option, or as
`-h` and attached text for a short one. -/
def Parser.candidates (p : Parser) (arg : String) : List (OptionSpec × String × Option String) :=
  match arg.toList with
  | '-' :: '-' :: _ =>
    let (pre, given) := splitAtEquals arg
    p.spellings.filterMap fun (n, o) => if n.startsWith pre then some (o, n, given) else none
  | '-' :: _ =>
    let short := String.ofList (arg.toList.take 2)
    let attached := String.ofList (arg.toList.drop 2)
    p.spellings.filterMap fun (n, o) =>
      if n == short then some (o, n, some attached)
      else if n.startsWith arg then some (o, n, none)
      else none
  | _ => []

def Parser.classify (p : Parser) (width : Int) (arg : String) : Except Stop ArgClass :=
  match arg.toList with
  | [] => pure .plain
  | c :: rest =>
    if c != '-' then pure .plain
    else match p.lookup arg with
    | some o => pure (.option o arg none)
    | none =>
      if rest.isEmpty then pure .plain
      else
        let (name, given) := splitAtEquals arg
        match given, p.lookup name with
        | some v, some o => pure (.option o name (some v))
        | _, _ =>
          match p.candidates arg with
          | [(o, n, g)] => pure (.option o n g)
          | [] => pure (if looksNegative arg || rest.contains ' ' then .plain else .unknownOption)
          | found => .error (p.fail width ("ambiguous option: " ++ arg ++ " could match " ++
              ", ".intercalate (found.map (·.2.1))))

def Parser.classes (p : Parser) (width : Int) : List String → Except Stop (List ArgClass)
  | [] => pure []
  | "--" :: rest => pure (.separator :: rest.map fun _ => .plain)
  | a :: rest => do
    let c ← p.classify width a
    let cs ← p.classes width rest
    pure (c :: cs)

/-- A value given to an option: text, or an empty list when the value was `--`. -/
inductive Given where
  | text (s : String)
  | emptyList

/-- What a parser read: the configuration path, the tracks asked for, whether the run is
dry, the arguments kept aside, and the command with what its parser read. -/
inductive Reading where
  | mk (config : Option Given) (tracks : List Given) (dryRun : Bool) (extras : List String)
      (command : Option (Parser × Reading))

namespace Reading

def empty : Reading := mk none [] false [] none

def config : Reading → Option Given
  | mk c _ _ _ _ => c

def tracks : Reading → List Given
  | mk _ t _ _ _ => t

def dryRun : Reading → Bool
  | mk _ _ d _ _ => d

def extras : Reading → List String
  | mk _ _ _ e _ => e

def command : Reading → Option (Parser × Reading)
  | mk _ _ _ _ c => c

def keepAside (r : Reading) (args : List String) : Reading :=
  mk r.config r.tracks r.dryRun (r.extras ++ args) r.command

end Reading

def givenOf (values : List String) : Given :=
  match values with
  | ["--"] => .emptyList
  | v :: _ => .text v
  | [] => .emptyList

def Parser.apply (p : Parser) (width : Int) :
    List (OptionSpec × List String) → Reading → Except Stop Reading
  | [], r => pure r
  | (o, values) :: rest, .mk config tracks dryRun extras command =>
    match o.kind with
    | .help => .error ⟨0, p.help width, ""⟩
    | .keep => p.apply width rest (.mk (some (givenOf values)) tracks dryRun extras command)
    | .collect => p.apply width rest (.mk config (tracks ++ [givenOf values]) dryRun extras command)
    | .switch => p.apply width rest (.mk config tracks true extras command)

def Parser.optionsAt (p : Parser) (width : Int) (args : List String) (classes : List ArgClass)
    (start : Nat) : Nat → OptionSpec → String → Option String → List (OptionSpec × List String) →
    Except Stop (List (OptionSpec × List String) × Nat)
  | 0, o, _, _, acc => pure (acc ++ [(o, [])], start + 1)
  | fuel + 1, o, name, some text, acc =>
    let ignored := p.fail width ("argument " ++ o.label ++ ": ignored explicit argument " ++
      Text.quote text)
    if !o.takesValue && name.toList[1]? != some '-' && !text.isEmpty then
      let next := String.ofList ['-', text.toList.headD ' ']
      let more := String.ofList (text.toList.drop 1)
      match p.lookup next with
      | some o2 =>
        p.optionsAt width args classes start fuel o2 next (if more.isEmpty then none else some more)
          (acc ++ [(o, [])])
      | none => .error ignored
    else if o.takesValue then pure (acc ++ [(o, [text])], start + 1)
    else .error ignored
  | _ + 1, o, _, none, acc =>
    if o.takesValue then
      match classes[start + 1]?, args[start + 1]? with
      | some .plain, some v => pure (acc ++ [(o, [v])], start + 2)
      | _, _ => .error (p.fail width ("argument " ++ o.label ++ ": expected one argument"))
    else pure (acc ++ [(o, [])], start + 1)

def Parser.optionAt (p : Parser) (width : Int) (args : List String) (classes : List ArgClass)
    (start : Nat) (r : Reading) : Except Stop (Nat × Reading) :=
  match classes[start]? with
  | some (.option o name given) => do
    let (found, next) ← p.optionsAt width args classes start
      ((given.map String.length).getD 0 + 1) o name given []
    let r ← p.apply width found r
    pure (next, r)
  | _ => pure (start + 1, r.keepAside ((args[start]?).toList))

def firstOptionFrom (classes : List ArgClass) (start : Nat) : Nat :=
  let isOption := fun (c : ArgClass) => match c with
    | .option _ _ _ | .unknownOption => true
    | _ => false
  start + ((classes.drop start).takeWhile (!isOption ·)).length

def lastOption (classes : List ArgClass) : Option Nat :=
  (classes.zipIdx.filterMap fun (c, i) => match c with
    | .option _ _ _ | .unknownOption => some i
    | _ => none).getLast?

def Parser.readFrom (p : Parser) (width : Int) (args : List String) (classes : List ArgClass)
    (last : Nat) (take : Nat → Reading → Except Stop (Nat × Reading)) :
    Nat → Nat → Reading → Except Stop (Nat × Reading)
  | 0, start, r => pure (start, r)
  | fuel + 1, start, r => do
    if last < start then return (start, r)
    let next := firstOptionFrom classes start
    let (stop, r) ← if start != next then take start r else pure (start, r)
    if start < stop then p.readFrom width args classes last take fuel stop r
    else
      let r := if start < next then r.keepAside ((args.drop start).take (next - start)) else r
      let (stop, r) ← p.optionAt width args classes next r
      p.readFrom width args classes last take fuel stop r

def Parser.readAll (p : Parser) (width : Int) (args : List String)
    (take : List ArgClass → Nat → Reading → Except Stop (Nat × Reading)) : Except Stop Reading := do
  let classes ← p.classes width args
  let (start, r) ← match lastOption classes with
    | some last => p.readFrom width args classes last (take classes) (args.length + 1) 0 .empty
    | none => pure (0, .empty)
  let (stop, r) ← take classes start r
  pure (r.keepAside (args.drop stop))

def namesCommand : List ArgClass → Bool
  | .separator :: rest => namesCommand rest
  | .plain :: _ => true
  | _ => false

def commandChoices : String :=
  ", ".intercalate (commands.map fun c => Text.quote c.1)

def takeCommand (width : Int) (args : List String) (classes : List ArgClass) (start : Nat)
    (r : Reading) : Except Stop (Nat × Reading) :=
  match r.command with
  | some _ => pure (start, r)
  | none =>
    if !namesCommand (classes.drop start) then pure (start, r)
    else
      match args.drop start with
      | [] => pure (start, r)
      | name :: rest =>
        match Parser.ofCommand? name with
        | none => .error (Parser.main.fail width ("argument command: invalid choice: " ++
            Text.quote name ++ " (choose from " ++ commandChoices ++ ")"))
        | some sub => do
          let read ← sub.readAll width rest fun _ s r => pure (s, r)
          match r with
          | .mk config tracks dryRun extras _ =>
            pure (args.length, .mk config tracks dryRun extras (some (sub, read)))

/-- The command a command line asks for. -/
inductive Command where
  | run (tracks : List Given) (dryRun : Bool)
  | listTracks
  | history

/-- A command with the configuration file it names, if any. -/
structure Invocation where
  configPath : Option Given
  command : Command

def parse (width : Int) (argv : List String) : Except Stop Invocation := do
  let r ← Parser.main.readAll width argv (takeCommand width argv)
  match r.command with
  | none => .error (Parser.main.fail width "the following arguments are required: command")
  | some (sub, read) =>
    let unknown := r.extras ++ read.extras
    if !unknown.isEmpty then
      .error (Parser.main.fail width ("unrecognized arguments: " ++ " ".intercalate unknown))
    else
      let command := match sub with
        | .run => Command.run read.tracks read.dryRun
        | .listTracks => .listTracks
        | _ => .history
      pure ⟨r.config, command⟩

end Conveyor.Cli
