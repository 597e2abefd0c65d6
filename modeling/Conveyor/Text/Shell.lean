/-!
# Shell words

A command line is split into words the way a POSIX shell reads them, without
expansion: space, tab, carriage return and line feed separate words; single
quotes keep everything up to the next single quote; double quotes keep
everything up to the next double quote, where a backslash escapes only a double
quote or a backslash and is kept before anything else; outside quotes a backslash
makes the next character literal. A word made only of quotes is an empty word.

Joining is the inverse: a word of ASCII letters, digits, underscores and the
marks `@ % + = : , .`, slash and hyphen stands as itself, the empty word is `''`, and any other word goes between single quotes,
an inner single quote written as `'"'"'`.
-/

namespace Conveyor.Text.Shell

set_option autoImplicit false

/-- Why a command line cannot be split. -/
inductive SplitError where
  | unclosedQuote
  | danglingEscape
  deriving DecidableEq, Repr

def SplitError.message : SplitError → String
  | .unclosedQuote => "No closing quotation"
  | .danglingEscape => "No escaped character"

/-- Where the reader stands. -/
inductive Mode where
  | between
  | word
  | single
  | double
  /-- After a backslash outside quotes. -/
  | escapeWord
  /-- After a backslash inside double quotes. -/
  | escapeDouble
  deriving DecidableEq, Repr

def isSeparator (c : Char) : Bool :=
  c == ' ' || c == '\t' || c == '\r' || c == '\n'

/-- Reads the rest of a command line. `token` is the current word reversed, `quoted`
tells whether it held quotes, `acc` holds the finished words reversed. -/
def readWords : Mode → List Char → Bool → List String → List Char →
    Except SplitError (List String)
  | .between, _, _, acc, [] => .ok acc.reverse
  | .between, token, quoted, acc, c :: rest =>
    if isSeparator c then readWords .between token quoted acc rest
    else if c == '\\' then readWords .escapeWord [] false acc rest
    else if c == '"' then readWords .double [] true acc rest
    else if c == '\'' then readWords .single [] true acc rest
    else readWords .word [c] false acc rest
  | .word, token, quoted, acc, [] =>
    .ok (if token.isEmpty && !quoted then acc.reverse else (String.ofList token.reverse :: acc).reverse)
  | .word, token, quoted, acc, c :: rest =>
    if isSeparator c then
      readWords .between [] false
        (if token.isEmpty && !quoted then acc else String.ofList token.reverse :: acc) rest
    else if c == '"' then readWords .double token true acc rest
    else if c == '\'' then readWords .single token true acc rest
    else if c == '\\' then readWords .escapeWord token quoted acc rest
    else readWords .word (c :: token) quoted acc rest
  | .single, _, _, _, [] => .error .unclosedQuote
  | .single, token, _, acc, c :: rest =>
    if c == '\'' then readWords .word token true acc rest
    else readWords .single (c :: token) true acc rest
  | .double, _, _, _, [] => .error .unclosedQuote
  | .double, token, _, acc, c :: rest =>
    if c == '"' then readWords .word token true acc rest
    else if c == '\\' then readWords .escapeDouble token true acc rest
    else readWords .double (c :: token) true acc rest
  | .escapeWord, _, _, _, [] => .error .danglingEscape
  | .escapeWord, token, quoted, acc, c :: rest => readWords .word (c :: token) quoted acc rest
  | .escapeDouble, _, _, _, [] => .error .danglingEscape
  | .escapeDouble, token, _, acc, c :: rest =>
    let token := if c == '\\' || c == '"' then token else '\\' :: token
    readWords .double (c :: token) true acc rest

def split (command : String) : Except SplitError (List String) :=
  readWords .between [] false [] command.toList

def isSafe (c : Char) : Bool :=
  ('a' ≤ c && c ≤ 'z') || ('A' ≤ c && c ≤ 'Z') || ('0' ≤ c && c ≤ '9') ||
    "_@%+=:,./-".toList.contains c

def quote (word : String) : String :=
  if word.isEmpty then "''"
  else if word.toList.all isSafe then word
  else
    "'" ++ String.join (word.toList.map fun c => if c == '\'' then "'\"'\"'" else String.ofList [c]) ++ "'"

def join (words : List String) : String :=
  " ".intercalate (words.map quote)

end Conveyor.Text.Shell
