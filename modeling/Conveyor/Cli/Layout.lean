import Conveyor.Text.Digits

/-!
# Help text laid out for a terminal

Usage lines and help listings are laid out for a width: the terminal's columns
less two. The columns come from the environment's `COLUMNS` when it holds a
positive whole number, and are 80 otherwise.

*Usage.* `usage: ` and the program, then the usage parts of its options and of
its arguments, all on one line when they fit. Otherwise the parts are filled
onto lines: after the program when `usage: ` and the program take at most three
quarters of the width (options and arguments then start on separate lines,
aligned after the program), or else below the program, indented by the width of
`usage: ` (options and arguments on separate lines when all of them do not fit
on one). A part goes on the current line when it fits after a space, or when the
line is still empty.

*Listings.* Each entry is indented by two (its choices by four). Its help starts
at the help column: two past the longest entry, but at most 24 and at most the
width less 20 (and at least 4). An entry that does not fit before the help
column puts its help on the next line. Help is wrapped at the width less the help
column, but never below 11 characters.

*Wrapping.* Help text is wrapped greedily at its spaces. A word longer than a
whole line is cut: the current line takes as much of it as is left. A space that
ends a line is dropped, and so is a space that would start one.
-/

namespace Conveyor.Cli

set_option autoImplicit false

def spaces (n : Nat) : String :=
  String.ofList (List.replicate n ' ')

def padRight (s : String) (n : Nat) : String :=
  s ++ spaces (n - s.length)

def layoutWidth (columns : Option String) : Int :=
  let given : Int := match columns.bind Text.readWhole? with
    | some n => if 0 < n then n else 80
    | none => 80
  given - 2

def chunksOf (text : String) : List String :=
  " ".intercalate (Text.words text) |>.splitOn " " |>.intersperse " " |>.filter (!·.isEmpty)

def isSpaceChunk (c : String) : Bool :=
  c.all (· == ' ')

def takeFitting (width : Nat) : List String → Nat → List String → List String × Nat × List String
  | [], used, line => (line, used, [])
  | c :: rest, used, line =>
    if used + c.length ≤ width then takeFitting width rest (used + c.length) (line ++ [c])
    else (line, used, c :: rest)

def dropTrailingSpace (line : List String) : List String :=
  match line.getLast? with
  | some c => if isSpaceChunk c then line.dropLast else line
  | none => line

def wrapChunks (width : Nat) : Nat → List String → List String → List String
  | 0, _, lines => lines
  | _ + 1, [], lines => lines
  | fuel + 1, chunks, lines =>
    let chunks := match chunks with
      | c :: rest => if !lines.isEmpty && isSpaceChunk c then rest else chunks
      | [] => []
    let (line, used, rest) := takeFitting width chunks 0 []
    let (line, rest) := match rest with
      | c :: more =>
        if width < c.length then
          let room := width - used
          (line ++ [String.ofList (c.toList.take room)], String.ofList (c.toList.drop room) :: more)
        else (line, rest)
      | [] => (line, rest)
    let line := dropTrailingSpace line
    wrapChunks width fuel rest (if line.isEmpty then lines else lines ++ [String.join line])

def wrapWords (text : String) (width : Nat) : List String :=
  wrapChunks width (text.length + 2) (chunksOf text) []

def fillLines (width : Int) (restart : Nat) :
    List String → Nat → List String → List (List String) → List (List String)
  | [], _, line, done => if line.isEmpty then done else done ++ [line]
  | p :: ps, used, line, done =>
    if width < ((used + 1 + p.length : Nat) : Int) && !line.isEmpty then
      fillLines width restart ps (restart + p.length + 1) [p] (done ++ [line])
    else fillLines width restart ps (used + p.length + 1) (line ++ [p]) done

def indentedLines (width : Int) (indent : Nat) (parts : List String) : List String :=
  (fillLines width (indent - 1) parts (indent - 1) [] []).map fun l => spaces indent ++ " ".intercalate l

/-- What follows `usage: `: the program and the usage parts of its options and its
arguments, on as many lines as the width needs. -/
def usageBody (prog : String) (options arguments : List String) (width : Int) : String :=
  let lead := "usage: ".length
  let oneLine := " ".intercalate (prog :: (options ++ arguments))
  if ((lead + oneLine.length : Nat) : Int) ≤ width then oneLine
  else if ((4 * (lead + prog.length) : Nat) : Int) ≤ 3 * width then
    let indent := lead + prog.length + 1
    let afterProg (parts : List String) : List String :=
      (fillLines width (indent - 1) (prog :: parts) (lead - 1) [] []).zipIdx.map fun (l, i) =>
        (if i == 0 then "" else spaces indent) ++ " ".intercalate l
    let lines :=
      if !options.isEmpty then afterProg options ++ indentedLines width indent arguments
      else if !arguments.isEmpty then afterProg arguments
      else [prog]
    "\n".intercalate lines
  else
    let all := indentedLines width lead (options ++ arguments)
    let lines := if all.length > 1 then
        indentedLines width lead options ++ indentedLines width lead arguments
      else all
    "\n".intercalate (prog :: lines)

/-- An entry of a help listing: how an option or argument is written, its help, and
the choices listed under it with their help. -/
structure HelpEntry where
  invocation : String
  help : Option String
  choices : List (String × String) := []

def HelpEntry.reach (e : HelpEntry) : Nat :=
  2 + (e.choices.map (·.1.length)).foldl max e.invocation.length

def entryText (invocation : String) (help : Option String) (indent helpColumn : Nat)
    (width : Int) : String :=
  let helpWidth := max (width - helpColumn) 11 |>.toNat
  let room : Int := (helpColumn : Int) - indent - 2
  match help with
  | none => spaces indent ++ invocation ++ "\n"
  | some text =>
    let fitsBefore := (invocation.length : Int) ≤ room
    let header := if fitsBefore then spaces indent ++ padRight invocation room.toNat ++ "  "
      else spaces indent ++ invocation ++ "\n"
    let firstIndent := if fitsBefore then 0 else helpColumn
    match wrapWords text helpWidth with
    | [] => header ++ (if fitsBefore then "\n" else "")
    | first :: rest =>
      header ++ spaces firstIndent ++ first ++ "\n" ++
        String.join (rest.map fun l => spaces helpColumn ++ l ++ "\n")

def listingText (entries : List HelpEntry) (helpColumn : Nat) (width : Int) : String :=
  String.join (entries.map fun e =>
    entryText e.invocation e.help 2 helpColumn width ++
      String.join (e.choices.map fun (name, help) => entryText name (some help) 4 helpColumn width))

def helpColumn (entries : List HelpEntry) (width : Int) : Nat :=
  let widest := (entries.map HelpEntry.reach).foldl max 0
  let limit := min 24 (max (width - 20) 4)
  (min ((widest + 2 : Nat) : Int) limit).toNat

def helpText (prog : String) (options arguments : List String)
    (sections : List (String × List HelpEntry)) (width : Int) : String :=
  let column := helpColumn (sections.flatMap (·.2)) width
  let shown := sections.filter fun s => !s.2.isEmpty
  "usage: " ++ usageBody prog options arguments width ++ "\n" ++
    String.join (shown.map fun (heading, entries) =>
      "\n" ++ heading ++ ":\n" ++ listingText entries column width)

end Conveyor.Cli
