import Quadruped.Number.Reading
import Quadruped.Options.Basic

/-!
Reading a command line. First every argument is classed, on its own, as an option or as plain; then
the arguments are taken from left to right.
-/
namespace Quadruped.Options

open Text

/-- A value that stands in the same argument as its option. After a short name, which is a dash and
one character, it needs no equals sign. -/
structure Inline where
  text : List Char
  short : Bool
deriving DecidableEq, Repr

inductive Piece where
  | plain (text : String)
  | dashes
  | option (o : Opt) (inline? : Option Inline)
  | unknown (text : String)
deriving DecidableEq, Repr

def Piece.isOption : Piece → Bool
  | option .. => true
  | unknown _ => true
  | _ => false

def Piece.given : Piece → String
  | plain s => s
  | dashes => "--"
  | option .. => ""
  | unknown s => s

inductive Stop where
  | fault (why : ArgumentFault)
  | help
deriving DecidableEq, Repr

/-- The options that were given, by their last name and the newest first, and the positional
argument. A flag has no value; nor has an option with two dashes in place of one. -/
structure Parsed where
  values : List (String × Option String)
  positional : Option String
deriving DecidableEq, Repr

def Opt.key (o : Opt) : String := o.names.getLastD ""

namespace Grammar

def spellings (g : Grammar) : List (String × Opt) :=
  g.options.flatMap fun o => o.names.map (·, o)

def named? (g : Grammar) (name : List Char) : Option Opt := g.spellings.lookup (String.ofList name)

end Grammar

def isDigit (c : Char) : Bool := (digitValue? c).isSome

/-- Negative numbers are plain arguments: digits after a dash, perhaps with a point before the last
of them. -/
def isNegativeNumber (cs : List Char) : Bool :=
  let cs := if cs.getLast? == some '\n' then cs.dropLast else cs
  match cs with
  | '-' :: rest =>
    match rest.dropWhile isDigit with
    | [] => !rest.isEmpty
    | '.' :: fraction => !fraction.isEmpty && fraction.all isDigit
    | _ => false
  | _ => false

def isLongName (cs : List Char) : Bool := ['-', '-'].isPrefixOf cs

def cutEquals (cs : List Char) : List Char × Option Inline :=
  match cs.dropWhile (· != '=') with
  | _ :: value => (cs.takeWhile (· != '='), some ⟨value, !isLongName cs⟩)
  | [] => (cs, none)

/-- The options that an argument may mean by a start of a name, or by a short name with more after
it. -/
def candidates (g : Grammar) (cs : List Char) : List (String × Piece) :=
  if isLongName cs then
    let (start, inline?) := cutEquals cs
    (g.spellings.filter fun n => start.isPrefixOf n.1.toList).map fun n =>
      (n.1, .option n.2 inline?)
  else
    (g.spellings.filter fun n => n.1.toList == cs.take 2).map fun n =>
      (n.1, .option n.2 (some ⟨cs.drop 2, true⟩))

def classifyDashed (g : Grammar) (arg : String) : Except ArgumentFault Piece :=
  let cs := arg.toList
  match candidates g cs with
  | [(_, p)] => .ok p
  | [] => .ok (if isNegativeNumber cs || cs.contains ' ' then .plain arg else .unknown arg)
  | many => .error (.ambiguous arg (many.map (·.1)))

def classify (g : Grammar) (arg : String) : Except ArgumentFault Piece :=
  let cs := arg.toList
  if cs.head? != some '-' then .ok (.plain arg)
  else
    match g.named? cs with
    | some o => .ok (.option o none)
    | none =>
      if cs.length == 1 then .ok (.plain arg)
      else
        match cutEquals cs with
        | (name, some inline) =>
          match g.named? name with
          | some o => .ok (.option o (some inline))
          | none => classifyDashed g arg
        | _ => classifyDashed g arg

def classifyAll (g : Grammar) : List String → Except ArgumentFault (List Piece)
  | [] => .ok []
  | "--" :: rest => .ok (.dashes :: rest.map .plain)
  | arg :: rest => do
    let p ← classify g arg
    let ps ← classifyAll g rest
    .ok (p :: ps)

def Parsed.give (p : Parsed) (o : Opt) (value : Option String) : Parsed :=
  { p with values := (o.key, value) :: p.values }

/-- A value is checked against the choice or read as a number. Two dashes are dropped, and nothing
checks that no value is left. -/
def take (o : Opt) (value : String) (p : Parsed) : Except Stop Parsed :=
  if value == "--" then .ok (p.give o none)
  else
    let taken := p.give o (some value)
    match o.kind with
    | .value choices =>
      if choices.isEmpty || choices.contains value then .ok taken
      else .error (.fault (.badChoice o value choices))
    | .number =>
      if (Number.readFloat? value.toList).isSome then .ok taken
      else .error (.fault (.badNumber o value))
    | _ => .ok taken

/-- What follows a short name in the same argument may be more short names; only help has one. -/
def takeCluster (o : Opt) : List Char → Stop
  | [] => .help
  | c :: rest =>
    if o.names.contains (String.ofList ['-', c]) then takeCluster o rest
    else .fault (.ignoredValue o (String.ofList (c :: rest)))

def Opt.takesValue (o : Opt) : Bool :=
  match o.kind with
  | .help | .flag => false
  | _ => true

def takeInline (o : Opt) (v : Inline) (p : Parsed) : Except Stop Parsed :=
  if o.takesValue then take o (String.ofList v.text) p
  else .error (if v.short && !v.text.isEmpty then takeCluster o v.text
    else .fault (.ignoredValue o (String.ofList v.text)))

def takeBare (o : Opt) (p : Parsed) : Except Stop Parsed :=
  if o.kind = .help then .error .help else .ok (p.give o none)

/-- The positional argument at the end of the options: dashes around it are dropped. -/
def takeLast (ps : List Piece) : Option String × List Piece :=
  match ps with
  | .dashes :: .plain s :: rest => (some s, rest)
  | [.dashes] => (none, [])
  | .plain s :: .dashes :: rest => (some s, rest)
  | .plain s :: rest => (some s, rest)
  | rest => (none, rest)

structure Progress where
  parsed : Parsed
  positional : Bool
  extras : List String
deriving DecidableEq, Repr

def finish (g : Progress) (ps : List Piece) : Except Stop Parsed :=
  let (found, rest) := if g.positional then takeLast ps else (none, ps)
  let parsed := if g.positional then { g.parsed with positional := found } else g.parsed
  match g.extras ++ rest.map Piece.given with
  | [] => .ok parsed
  | extras => .error (.fault (.unrecognized extras))

def consume (g : Progress) : List Piece → Except Stop Parsed
  | [] => finish g []
  | .unknown s :: rest => consume { g with extras := g.extras ++ [s] } rest
  | .option o (some v) :: rest => do
    let p ← takeInline o v g.parsed
    consume { g with parsed := p } rest
  | .option o none :: .plain s :: rest =>
    if o.takesValue then do
      let p ← take o s g.parsed
      consume { g with parsed := p } rest
    else do
      let p ← takeBare o g.parsed
      consume { g with parsed := p } (.plain s :: rest)
  | .option o none :: rest =>
    if o.takesValue then .error (.fault (.expectedOne o))
    else do
      let p ← takeBare o g.parsed
      consume { g with parsed := p } rest
  | .plain s :: rest =>
    if rest.any Piece.isOption then
      if g.positional then
        let parsed := { g.parsed with positional := some s }
        consume { g with positional := false, parsed } rest
      else consume { g with extras := g.extras ++ [s] } rest
    else finish g (.plain s :: rest)
  | .dashes :: rest => finish g (.dashes :: rest)

def parse (g : Grammar) (args : List String) : Except Stop Parsed :=
  match classifyAll g args with
  | .error why => .error (.fault why)
  | .ok pieces => consume ⟨⟨[], none⟩, g.positional, []⟩ pieces

namespace Parsed

def has (p : Parsed) (key : String) : Bool := (p.values.lookup key).isSome

def valueOr (p : Parsed) (key : String) (default : Option String) : Option String :=
  (p.values.lookup key).getD default

/-- The option was given last with two dashes in place of its value. -/
def lacksValue (p : Parsed) (key : String) : Bool := p.values.lookup key == some none

end Parsed
end Quadruped.Options
