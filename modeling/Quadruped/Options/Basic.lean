import Quadruped.Text.Quoted

/-!
The arguments of a command line: options by name or by an unambiguous start of a name, with their
value in the same argument after an equals sign or in the next one, and at most one positional
argument. Two dashes end the options. Here are the kinds of options and what can be wrong.
-/
namespace Quadruped.Options

inductive Kind where
  | help
  | flag
  | value (choices : List String)
  | number
deriving DecidableEq, Repr

structure Opt where
  names : List String
  kind : Kind
deriving DecidableEq, Repr

structure Grammar where
  options : List Opt
  positional : Bool
deriving DecidableEq, Repr

inductive ArgumentFault where
  | ambiguous (argument : String) (candidates : List String)
  | unrecognized (arguments : List String)
  | expectedOne (o : Opt)
  | ignoredValue (o : Opt) (value : String)
  | badNumber (o : Opt) (value : String)
  | badChoice (o : Opt) (value : String) (choices : List String)
deriving DecidableEq, Repr

def Opt.label (o : Opt) : String := "argument " ++ String.intercalate "/" o.names

def inQuotes (s : String) : String := Text.quoted s.toList

def ArgumentFault.message : ArgumentFault → String
  | ambiguous a cs => s!"ambiguous option: {a} could match " ++ String.intercalate ", " cs
  | unrecognized as => "unrecognized arguments: " ++ String.intercalate " " as
  | expectedOne o => o.label ++ ": expected one argument"
  | ignoredValue o v => s!"{o.label}: ignored explicit argument {inQuotes v}"
  | badNumber o v => s!"{o.label}: invalid float value: {inQuotes v}"
  | badChoice o v cs =>
    s!"{o.label}: invalid choice: {inQuotes v} (choose from " ++
      String.intercalate ", " (cs.map inQuotes) ++ ")"

end Quadruped.Options
