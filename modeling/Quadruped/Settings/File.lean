import Quadruped.Settings.Environment
import Quadruped.Text.Blank

/-!
Files of settings, in the dotenv format: a line `NAME=value` for each, perhaps with `export` in front;
a value may stand in single or double quotes, with backslash escapes, and may go over several lines
there; a comment starts with `#`. What is none of that is passed over, up to the end of its line. A
value may name other settings, as in `${NAME}`, or `${NAME:-text}` with a text for one that is not set.
-/
namespace Quadruped.Settings.File

open Text

def isLineBlank (c : Char) : Bool := isBlank c && c != '\n'

def unifyLines : List Char → List Char
  | [] => []
  | '\r' :: '\n' :: rest => '\n' :: unifyLines rest
  | '\r' :: rest => '\n' :: unifyLines rest
  | c :: rest => c :: unifyLines rest

def dropLine (cs : List Char) : List Char := (cs.dropWhile (· != '\n')).drop 1

/-- Reads on, or fails at a place; what is left of the line there is passed over. -/
abbrev Reading (α : Type) := Except (List Char) (α × List Char)

def dropExport (cs : List Char) : List Char :=
  if "export".toList.isPrefixOf cs then
    let rest := cs.drop 6
    if (rest.takeWhile isLineBlank).isEmpty then cs else rest.dropWhile isLineBlank
  else cs

def cutAt (quote : Char) (cs : List Char) : Option (List Char × List Char) :=
  match cs.dropWhile (· != quote) with
  | [] => none
  | _ :: rest => some (cs.takeWhile (· != quote), rest)

/-- The text up to the closing quote. A quote after a backslash closes only if no later one can. -/
def cutQuoted (quote : Char) : List Char → Option (List Char × List Char)
  | [] => none
  | [c] => if c == quote then some ([], []) else none
  | c :: d :: rest =>
    if c == quote then some ([], d :: rest)
    else if c == '\\' && d == quote then
      match cutQuoted quote rest with
      | some (more, left) => some (c :: d :: more, left)
      | none => some ([c], rest)
    else (cutQuoted quote (d :: rest)).map fun cut => (c :: cut.1, cut.2)

abbrev Escapes := List (Char × Char)

def singleEscapes : Escapes := [('\\', '\\'), ('\x27', '\x27')]

def doubleEscapes : Escapes := singleEscapes ++
  [('\x22', '\x22'), ('a', '\x07'), ('b', '\x08'), ('f', '\x0c'), ('n', '\n'), ('r', '\r'),
    ('t', '\t'), ('v', '\x0b')]

def unescape (escapes : Escapes) : List Char → List Char
  | [] => []
  | [c] => [c]
  | c :: d :: rest =>
    if c == '\\' then
      match escapes.lookup d with
      | some e => e :: unescape escapes rest
      | none => c :: unescape escapes (d :: rest)
    else c :: unescape escapes (d :: rest)

def readQuoted (quote : Char) (escapes : Escapes) (start cs : List Char) : Reading (List Char) :=
  match cutQuoted quote cs with
  | none => .error start
  | some (value, rest) => .ok (unescape escapes value, rest)

def isKeyChar (c : Char) : Bool := c != '=' && c != '#' && !isBlank c

def readKey (cs : List Char) : Reading (Option (List Char)) :=
  match cs with
  | '#' :: _ => .ok (none, cs)
  | '\x27' :: rest =>
    match cutAt '\x27' rest with
    | some ([], _) => .error cs
    | some (key, rest) => .ok (some key, rest)
    | none => .error cs
  | _ =>
    match cs.takeWhile isKeyChar with
    | [] => .error cs
    | key => .ok (some key, cs.dropWhile isKeyChar)

/-- The text before a comment; a comment follows a blank. -/
def cutComment : List Char → List Char
  | [] => []
  | c :: rest =>
    if isBlank c && (rest.dropWhile isBlank).head? == some '#' then [] else c :: cutComment rest

def dropEndBlanks (cs : List Char) : List Char := (cs.reverse.dropWhile isBlank).reverse

def readValue (cs : List Char) : Reading (List Char) :=
  match cs with
  | '\x27' :: rest => readQuoted '\x27' singleEscapes cs rest
  | '\x22' :: rest => readQuoted '\x22' doubleEscapes cs rest
  | _ =>
    .ok (dropEndBlanks (cutComment (cs.takeWhile (· != '\n'))), cs.dropWhile (· != '\n'))

def readAssigned (cs : List Char) : Reading (Option (List Char)) :=
  match cs with
  | '=' :: rest => (readValue (rest.dropWhile isLineBlank)).map fun v => (some v.1, v.2)
  | _ => .ok (none, cs)

def dropComment (cs : List Char) : List Char :=
  match cs.dropWhile isLineBlank with
  | '#' :: rest => rest.dropWhile (· != '\n')
  | _ => cs

def readLineEnd (cs : List Char) : Except (List Char) (List Char) :=
  match cs.dropWhile isLineBlank with
  | [] => .ok []
  | c :: rest => if c == '\n' then .ok rest else .error cs

structure Binding where
  key : List Char
  value : Option (List Char)
deriving DecidableEq, Repr

inductive Statement where
  | binding (b : Binding)
  | comment
  | unreadable (line : Nat)
deriving DecidableEq, Repr

def readStatement (cs : List Char) : Except (List Char) (Statement × List Char) := do
  let (key, cs) ← readKey (dropExport cs)
  let (value, cs) ← readAssigned (cs.dropWhile isLineBlank)
  let cs ← readLineEnd (dropComment cs)
  match key with
  | some key => .ok (.binding ⟨key, value⟩, cs)
  | none => .ok (.comment, cs)

def countLines (cs : List Char) : Nat := cs.count '\n'

/-- The statements in order; every round reads at least one character. A statement starts in the line
after the one before it, of which there are `lines` in the file. -/
def readStatements (lines : Nat) : Nat → List Char → List Statement
  | 0, _ => []
  | n + 1, cs =>
    match cs.dropWhile isBlank with
    | [] => []
    | text =>
      match readStatement text with
      | .ok (s, rest) => s :: readStatements lines n rest
      | .error rest =>
        .unreadable (lines + 1 - countLines cs) :: readStatements lines n (dropLine rest)

def statements (text : String) : List Statement :=
  let cs := unifyLines text.toList
  readStatements (countLines cs) cs.length cs

def unreadableLines (text : String) : List Nat :=
  (statements text).filterMap fun s =>
    match s with
    | .unreadable line => some line
    | _ => none

def readReference (cs : List Char) : Option (List Char × List Char × List Char) :=
  let isNameChar (c : Char) : Bool := c != '\x7d' && c != ':'
  let name := cs.takeWhile isNameChar
  match cs.dropWhile isNameChar with
  | '\x7d' :: rest => some (name, [], rest)
  | ':' :: '-' :: rest => (cutAt '\x7d' rest).map fun cut => (name, cut.1, cut.2)
  | _ => none

/-- The value with the texts of the settings that it names; every round reads at least one
character. -/
def expand (textOf : String → Option String) : Nat → List Char → List Char
  | 0, _ => []
  | _ + 1, [] => []
  | n + 1, c :: rest =>
    match c, rest with
    | '$', '\x7b' :: inner =>
      match readReference inner with
      | some (name, standIn, rest) =>
        ((textOf (String.ofList name)).map String.toList).getD standIn ++ expand textOf n rest
      | none => c :: expand textOf n rest
    | _, _ => c :: expand textOf n rest

/-- The settings of a file so far, in the order in which they came first; one may be without a
value. -/
abbrev Entries := List (String × Option String)

def Entries.put (es : Entries) (name : String) (value : Option String) : Entries :=
  if es.any (·.1 == name) then es.map fun e => if e.1 == name then (name, value) else e
  else es ++ [(name, value)]

/-- What a name in a value stands for: the environment comes before the file. A name without a value
is an empty text, and not replaced. -/
def Entries.textOf (es : Entries) (e : Environment) (name : String) : Option String :=
  (e.get? name).or ((es.lookup name).map (·.getD ""))

def Entries.bind (es : Entries) (e : Environment) (b : Binding) : Entries :=
  es.put (String.ofList b.key) <| b.value.map fun v =>
    String.ofList (expand (es.textOf e) v.length v)

/-- The names and values of a file; of a name that occurs more than once the last counts. -/
def entries (e : Environment) (text : String) : Entries :=
  (statements text).foldl (fun es s =>
    match s with
    | .binding b => es.bind e b
    | _ => es) []

/-- The environment with the entries of a file, which replace nothing; one without a value sets
nothing. -/
def load (e : Environment) (text : String) : Except EnvironmentFault Environment :=
  (entries e text).foldlM (fun e kv =>
    match kv.2 with
    | some value => e.addIfAbsent kv.1 value
    | none => .ok e) e

end Quadruped.Settings.File
