import Quadruped.Text.Quoted

/-!
The environment of a program: named texts, the files it can see, and the other places that the machine
is known to have. What is there is for the caller to say: no path is taken to exist of itself, save the
root and the directory that the program runs in.
-/
namespace Quadruped

structure Environment where
  vars : List (String × String) := []
  files : List (String × String) := []
  /-- The places that hold no text of settings: directories, and what is as good as one. -/
  places : List String := []
deriving DecidableEq, Repr

inductive EnvironmentFault where
  | zeroCharacter
  | illegalName
  | emptyName
  | pathTooLong (path : String)
deriving DecidableEq, Repr

def EnvironmentFault.message : EnvironmentFault → String
  | zeroCharacter => "embedded null byte"
  | illegalName => "illegal environment variable name"
  | emptyName => "[Errno 22] Invalid argument"
  | pathTooLong path => "[Errno 36] File name too long: " ++ Text.quoted path.toList

namespace Environment

def get? (e : Environment) (name : String) : Option String := e.vars.lookup name

def hasZero (text : String) : Bool := text.toList.contains '\x00'

def faultOf? (name value : String) : Option EnvironmentFault :=
  if hasZero name || hasZero value then some .zeroCharacter
  else if name.toList.contains '=' then some .illegalName
  else if name.isEmpty then some .emptyName
  else none

def set (e : Environment) (name value : String) : Except EnvironmentFault Environment :=
  match faultOf? name value with
  | some why => .error why
  | none => .ok { e with vars := (name, value) :: e.vars.filter (·.1 != name) }

/-- A name that has a text keeps it, even an empty one. -/
def addIfAbsent (e : Environment) (name value : String) : Except EnvironmentFault Environment :=
  if (e.get? name).isSome then .ok e else e.set name value

def setAll (e : Environment) (vars : List (String × String)) :
    Except EnvironmentFault Environment :=
  vars.foldlM (fun e kv => e.set kv.1 kv.2) e

def create (vars files : List (String × String)) (places : List String := []) :
    Except EnvironmentFault Environment :=
  setAll { files, places } vars

inductive Place where
  | file (text : String)
  | directory
  | nowhere
  | beyond
deriving DecidableEq, Repr

def parts (path : String) : List String :=
  (path.splitOn "/").filter fun p => p != "" && p != "."

def isAbsolute (path : String) : Bool := path.startsWith "/"

def shownPath (path : String) : String :=
  let root := match path.toList with
    | '/' :: '/' :: '/' :: _ => "/"
    | '/' :: '/' :: _ => "//"
    | '/' :: _ => "/"
    | _ => ""
  let shown := root ++ String.intercalate "/" (parts path)
  if shown.isEmpty then "." else shown

/-- What stands at the parts of a path without a step up. What lies on the way to a file or a place is
a directory. -/
def placeAt (e : Environment) (absolute : Bool) (parts : List String) : Place :=
  let files := e.files.filter (isAbsolute ·.1 == absolute)
  let known := files.map (·.1) ++ e.places.filter (isAbsolute · == absolute)
  match files.find? (Environment.parts ·.1 == parts) with
  | some f => .file f.2
  | none =>
    if parts.isEmpty || known.any (parts.isPrefixOf <| Environment.parts ·) then .directory
    else .nowhere

def longestName : Nat := 255

def longestPath : Nat := 4095

/-- Above the directory that the program runs in nothing is known but the directories themselves. -/
def above : List String → Place
  | [] => .directory
  | ".." :: rest => above rest
  | part :: _ => if part.utf8ByteSize ≤ longestName then .nowhere else .beyond

/-- Follows a path from `here`. Every step, also one up, leads out of a directory only. -/
def follow (e : Environment) (absolute : Bool) (here : List String) : List String → Place
  | [] => e.placeAt absolute here
  | part :: rest =>
    if e.placeAt absolute here ≠ .directory then .nowhere
    else if part == ".." then
      if here.isEmpty && !absolute then above rest else follow e absolute here.dropLast rest
    else if part.utf8ByteSize ≤ longestName then follow e absolute (here ++ [part]) rest
    else .beyond

/-- A path from the root leads to files named from there, any other to those of the directory that
the program runs in; an empty path is that directory. -/
def locate (e : Environment) (path : String) : Except EnvironmentFault Place :=
  let shown := shownPath path
  if hasZero path then .ok .nowhere
  else if shown.utf8ByteSize ≤ longestPath then
    match e.follow (isAbsolute path) [] (parts path) with
    | .beyond => .error (.pathTooLong shown)
    | place => .ok place
  else .error (.pathTooLong shown)

end Environment
end Quadruped
