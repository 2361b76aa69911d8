import Quadruped.Cli.Result
import Quadruped.Options.Parse
import Quadruped.Settings.Basic

/-!
The program that shows the settings and says whether they are good.
-/
namespace Quadruped.Cli.Check

open Options

def grammar : Grammar := ⟨[
  ⟨["-h", "--help"], .help⟩,
  ⟨["--env-file"], .value []⟩,
  ⟨["--validate"], .flag⟩], false⟩

def usage (name : String) : String := s!"usage: {name} [-h] [--env-file ENV_FILE] [--validate]\n"

def help (name : String) : String := usage name ++ "
Go2 Configuration Utility

options:
  -h, --help           show this help message and exit
  --env-file ENV_FILE  Path to .env file
  --validate           Validate configuration and exit with error if invalid

Examples:
  Check current configuration:
    python go2_config.py

  Validate configuration:
    python go2_config.py --validate

  Use custom .env file:
    python go2_config.py --env-file /path/to/.env
        "

def report (o : Settings.Opened) (validate : Bool) : Result :=
  let status := Settings.statusLines o.environment o.found
  if validate then
    if (Settings.faults o.environment).isEmpty then
      ⟨none, (status ++ ["\nValidation passed!"]).map .print, "", .info, 0⟩
    else ⟨some 1, (status ++ ["\nValidation failed!"]).map .print, "", .info, 0⟩
  else ⟨none, status.map .print, "", .info, 0⟩

def run (name : String) (e : Environment) (args : List String) : Except (Fault Float) Result :=
  match parse grammar args with
  | .error .help => .ok ⟨some 0, [.print (help name)], "", .info, 0⟩
  | .error (.fault why) =>
    .ok ⟨some 2, [], usage name ++ s!"{name}: error: {why.message}\n", .info, 0⟩
  | .ok p =>
    match p.valueOr "--env-file" Settings.defaultFile with
    | none => .error (.missing .settingsFile)
    | some path =>
      ((Settings.openAt e path).mapError .environment).map (report · (p.has "--validate"))

end Quadruped.Cli.Check
