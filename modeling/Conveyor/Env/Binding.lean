import Conveyor.Fault
import Conveyor.Value.Basic
import Conveyor.Text.Basic

/-!
# Environment bindings and paths

## Environment bindings

A binding is written `KEY=value`. The key is the text before the first `=`,
trimmed; the value is the rest, kept as written. A key `NAME+SUFFIX` is
*additive*: it puts the value in front of the variable's current value instead
of replacing it. An environment is an ordered list of variables; a variable's
place is where it was first set.

Expansion replaces `$NAME` and `${NAME}` (a name is a letter or underscore, then
letters, digits and underscores) by the variable's value, in one left-to-right
pass: a name that is not set stays as written and replaced text is not expanded
again. The environment of a run may hold values that are not text: nothing stands
for no text, and any other value that is not text makes the expansion fail.
-/

namespace Conveyor.Env

set_option autoImplicit false

abbrev Vars := List (String × String)

def Vars.get? (env : Vars) (name : String) : Option String :=
  env.lookup name

def Vars.set (env : Vars) (name value : String) : Vars :=
  if env.any (fun entry => entry.1 == name) then
    env.map fun entry => if entry.1 == name then (name, value) else entry
  else env ++ [(name, value)]

/-- The variables of an environment block: entries `NAME=value` separated by NUL
characters; an entry without `=` is skipped, and a later entry of a name replaces
an earlier one. -/
def Vars.ofBlock (block : String) : Vars :=
  (block.splitOn "\x00").foldl (fun env entry =>
    match entry.splitOn "=" with
    | name :: first :: rest =>
      if name.isEmpty then env else Vars.set env name ("=".intercalate (first :: rest))
    | _ => env) []

/-- A parsed binding. -/
structure Binding where
  key : String
  value : String
  deriving Inhabited, BEq

/-- Why a binding text is refused. -/
inductive BindingError where
  | notText (kind : String)
  | noEquals (text : String)
  | emptyKey (text : String)
  | badAdditiveKey (key : String)

def BindingError.message : BindingError → String
  | .notText kind => "Environment binding must be a string (type=" ++ kind ++ ")"
  | .noEquals text => "Environment binding must look like KEY=value (got " ++ Text.quote text ++ ")"
  | .emptyKey text => "Environment binding has an empty key (got " ++ Text.quote text ++ ")"
  | .badAdditiveKey key =>
    "Invalid additive binding key: " ++ Text.quote key ++ " (expected NAME+SUFFIX)"

def BindingError.toFault (e : BindingError) : Fault :=
  match e with
  | .notText _ => .type e.message
  | _ => .value e.message

def splitFirst (c : Char) (s : String) : String × Option String :=
  let cs := s.toList
  match cs.findIdx? (· == c) with
  | some i => (String.ofList (cs.take i), some (String.ofList (cs.drop (i + 1))))
  | none => (s, none)

def splitAdditive (key : String) : String × Option String :=
  splitFirst '+' key

def Binding.parse (v : Value) : Except BindingError Binding :=
  match v with
  | .str text =>
    match splitFirst '=' text with
    | (_, none) => .error (.noEquals text)
    | (rawKey, some value) =>
      let key := Text.strip rawKey
      if key.isEmpty then .error (.emptyKey text)
      else
        match splitAdditive key with
        | (name, suffix) =>
          if name.isEmpty || suffix == some "" then .error (.badAdditiveKey key)
          else .ok ⟨key, value⟩
  | other => .error (.notText other.kindName)

def Binding.text (b : Binding) : String :=
  b.key ++ "=" ++ b.value

def isNameStart (c : Char) : Bool :=
  ('A' ≤ c && c ≤ 'Z') || ('a' ≤ c && c ≤ 'z') || c == '_'

def isNameChar (c : Char) : Bool :=
  isNameStart c || ('0' ≤ c && c ≤ '9')

/-- A piece of a text searched for variables: a run of plain text, or a variable
reference with its name and the text it was written as. -/
inductive Piece where
  | plain (text : String)
  | reference (name : String) (written : String)

def pushChar (c : Char) : List Piece → List Piece
  | .plain t :: rest => .plain (t.push c) :: rest
  | pieces => .plain (String.singleton c) :: pieces

def pushText (cs : List Char) (pieces : List Piece) : List Piece :=
  cs.foldl (fun acc c => pushChar c acc) pieces

/-- Cuts a text into plain runs and the references `$NAME` and `${NAME}` (a name is a
letter or underscore, then letters, digits and underscores), left to right. -/
def pieces (value : String) : List Piece :=
  (go (value.length + 1) value.toList []).reverse
where
  /-- Every step consumes at least one character, so `fuel` above the length suffices. -/
  go : Nat → List Char → List Piece → List Piece
    | 0, _, acc => acc
    | _ + 1, [], acc => acc
    | fuel + 1, '$' :: '{' :: rest, acc =>
      let name := rest.takeWhile isNameChar
      let after := rest.drop name.length
      match name, after with
      | c :: _, '}' :: tail =>
        if isNameStart c then
          let n := String.ofList name
          go fuel tail (.reference n ("$\x7b" ++ n ++ "\x7d") :: acc)
        else go fuel ('{' :: rest) (pushChar '$' acc)
      | _, _ => go fuel ('{' :: rest) (pushChar '$' acc)
    | fuel + 1, '$' :: c :: rest, acc =>
      if isNameStart c then
        let name := c :: rest.takeWhile isNameChar
        let n := String.ofList name
        go fuel (rest.drop (name.length - 1)) (.reference n ("$" ++ n) :: acc)
      else go fuel (c :: rest) (pushChar '$' acc)
    | fuel + 1, c :: rest, acc => go fuel rest (pushChar c acc)

/-- An environment handed to a run: variables in the order they were first set, with
values of any shape, since a caller may hand in values that are not text. -/
abbrev Environment := List (String × Value)

def Environment.get? (env : Environment) (name : String) : Option Value :=
  env.lookup name

def Environment.set (env : Environment) (name : String) (value : Value) : Environment :=
  if env.any (fun entry => entry.1 == name) then
    env.map fun entry => if entry.1 == name then (name, value) else entry
  else env ++ [(name, value)]

def Environment.ofVars (env : Vars) : Environment :=
  env.map fun (k, v) => (k, .str v)

/-- Joins the parts of an expanded text; every part must be text, and the first that
is not is reported by its place among the parts. -/
def joinParts (parts : List Value) : Except Fault String :=
  go 0 "" parts
where
  go (index : Nat) (acc : String) : List Value → Except Fault String
    | [] => .ok acc
    | .str t :: rest => go (index + 1) (acc ++ t) rest
    | other :: _ => .error (.type ("sequence item " ++ toString index ++
        ": expected str instance, " ++ other.kindName ++ " found"))

/-- Expands `$NAME` and `${NAME}` once, left to right: a set variable stands for its
value, nothing standing for no text, and an unset one stays as written. Replaced text
is not expanded again. The parts are then joined, so a value that is not text fails. -/
def expand (env : Environment) (value : String) : Except Fault String :=
  joinParts ((pieces value).filterMap fun
    | .plain t => some (.str t)
    | .reference name written =>
      match env.get? name with
      | some .null => none
      | some v => some v
      | none => some (.str written))

def splitAdditiveValue (key : Value) : Except Fault (String × Option String) :=
  match key with
  | .str k => .ok (splitAdditive k)
  | other => .error ⟨.attributeError, Text.quote other.kindName ++ " object has no attribute 'partition'"⟩

def expandValue (env : Environment) (value : Value) : Except Fault String :=
  match value with
  | .str v => expand env v
  | other => .error (.type ("expected string or bytes-like object, got " ++ Text.quote other.kindName))

end Conveyor.Env

/-!
## Home and variable expansion in paths

Paths in settings may start with `~`, the user's home directory, and may name
environment variables. A leading `~` alone, or followed by a slash, becomes the
value of `HOME` without its trailing slashes; a leading `~name` names another
user's home, looked up in the system's table of users, which holds the usual
system accounts; the path of an unknown user stays as written.

Variables are written `$name`, where the name is a run of ASCII letters, digits
and underscores, or `${name}`, where the name is anything up to the next closing
brace. A variable that is set is replaced by its value, one that is not stays as
written, and replaced text is not expanded again. This is a wider rule than the
expansion of binding values: names may start with a digit, and braces may hold
any text.
-/

namespace Conveyor.Env

set_option autoImplicit false

def isPathNameChar (c : Char) : Bool :=
  c.isAlphanum || c == '_'

def userHomes : List (String × String) := [
  ("root", "/root"), ("daemon", "/usr/sbin"), ("bin", "/bin"), ("sys", "/dev"), ("sync", "/bin"),
  ("games", "/usr/games"), ("man", "/var/cache/man"), ("lp", "/var/spool/lpd"),
  ("mail", "/var/mail"), ("news", "/var/spool/news"), ("uucp", "/var/spool/uucp"),
  ("proxy", "/bin"), ("www-data", "/var/www"), ("backup", "/var/backups"), ("list", "/var/list"),
  ("irc", "/run/ircd"), ("_apt", "/nonexistent"), ("nobody", "/nonexistent")]

def joinHome (home : String) (rest : List Char) : String :=
  let joined := String.ofList ((home.toList.reverse.dropWhile (· == '/')).reverse ++ rest)
  if joined.isEmpty then "/" else joined

def expandHome (home : Option String) (path : String) : String :=
  match path.toList with
  | '~' :: rest =>
    let name := rest.takeWhile (· != '/')
    let after := rest.drop name.length
    if !name.isEmpty then
      match userHomes.lookup (String.ofList name) with
      | some h => joinHome h after
      | none => path
    else
      match home with
      | some h => joinHome h rest
      | none => path
  | _ => path

def expandPathVars (env : Vars) (path : String) : String :=
  String.ofList (go env (path.length + 1) path.toList [])
where
  /-- Every step consumes at least one character, so `fuel` above the length suffices. -/
  go (env : Vars) : Nat → List Char → List Char → List Char
    | 0, _, acc => acc.reverse
    | _ + 1, [], acc => acc.reverse
    | fuel + 1, '$' :: '{' :: rest, acc =>
      let name := rest.takeWhile (· != '}')
      match rest.drop name.length with
      | '}' :: tail =>
        match env.get? (String.ofList name) with
        | some v => go env fuel tail (v.toList.reverse ++ acc)
        | none => go env fuel tail ('}' :: (name.reverse ++ ('{' :: '$' :: acc)))
      | _ => go env fuel ('{' :: rest) ('$' :: acc)
    | fuel + 1, '$' :: rest, acc =>
      let name := rest.takeWhile isPathNameChar
      if name.isEmpty then go env fuel rest ('$' :: acc)
      else
        let tail := rest.drop name.length
        match env.get? (String.ofList name) with
        | some v => go env fuel tail (v.toList.reverse ++ acc)
        | none => go env fuel tail (name.reverse ++ ('$' :: acc))
    | fuel + 1, c :: rest, acc => go env fuel rest (c :: acc)

def expandPath (env : Vars) (path : String) : String :=
  expandPathVars env (expandHome (env.get? "HOME") path)

/-- Joins a directory and a name: an absolute name stands alone, and an empty directory
adds nothing. -/
def joinFile (dir name : String) : String :=
  if name.startsWith "/" || dir.isEmpty then name
  else if dir.endsWith "/" then dir ++ name
  else dir ++ "/" ++ name

end Conveyor.Env
