import Quadruped.Cli.Posture
import Quadruped.Cli.Result
import Quadruped.Options.Parse
import Quadruped.Session.Mission
import Quadruped.Settings.Basic

/-!
The program that starts the robot: in what mode, on which interface, with which settings.
-/
namespace Quadruped.Cli.Operate

open Options

def programName : String := "go2-motion"

def modes : List String := ["teleop", "plan", "posture"]

def levels : List String := ["DEBUG", "INFO", "WARNING", "ERROR"]

def grammar : Grammar := ⟨[
  ⟨["-h", "--help"], .help⟩,
  ⟨["--mode"], .value modes⟩,
  ⟨["--plan"], .value []⟩,
  ⟨["--posture"], .value []⟩,
  ⟨["--duration"], .number⟩,
  ⟨["--sim"], .flag⟩,
  ⟨["--gamepad"], .flag⟩,
  ⟨["--log-level"], .value levels⟩,
  ⟨["--env-file"], .value []⟩], true⟩

def usage : String := "usage: go2-motion [-h] [--mode \x7bteleop,plan,posture\x7d] [--plan PLAN]
                  [--posture POSTURE] [--duration DURATION] [--sim]
                  [--gamepad] [--log-level \x7bDEBUG,INFO,WARNING,ERROR\x7d]
                  [--env-file ENV_FILE]
                  [interface]
"

def help : String := usage ++ "
go2-motion - Closed-loop motion control for the Unitree Go2

positional arguments:
  interface             Network interface wired to the robot (default:
                        GO2_NETWORK_INTERFACE)

options:
  -h, --help            show this help message and exit
  --mode \x7bteleop,plan,posture\x7d
                        What drives the robot (default: teleop)
  --plan PLAN           Built-in plan name or route string (plan mode)
  --posture POSTURE     Posture name or sport client code to hold (posture
                        mode)
  --duration DURATION   Stop after this many seconds (posture mode; default:
                        until Ctrl+C)
  --sim                 Use the simulated robot (no hardware needed)
  --gamepad             Use gamepad control instead of the keyboard (requires
                        pygame)
  --log-level \x7bDEBUG,INFO,WARNING,ERROR\x7d
                        Set logging level
  --env-file ENV_FILE   Path to .env file

Built-in plans: out_and_back, square, survey, turn_test
Plan routes:    F<meters>, L<degrees>, R<degrees> separated by commas

Examples:
  python launch.py enp44s0                         Keyboard teleop
  python launch.py enp44s0 --mode plan --plan square
  python launch.py sim --sim --mode plan --plan \"F1.0,L90,F1.0\"
        "

/-- What the command line asks for; what was left without a value is missing. -/
structure Request where
  interface : Option String
  mode : Option String
  plan : Option String
  posture : Option String
  stay : Quadruped.Mission.Stay
  simulated : Bool
  gamepad : Bool
  level : Option Level
  settingsFile : Option String

def stayOf (p : Parsed) : Quadruped.Mission.Stay :=
  if p.lacksValue "--duration" then .unclear
  else
    match (p.valueOr "--duration" none).bind fun s => Number.readFloat? s.toList with
    | some d => .lasting d
    | none => .untilStopped

def Request.ofParsed (p : Parsed) : Request where
  interface := p.positional
  mode := p.valueOr "--mode" "teleop"
  plan := p.valueOr "--plan" "square"
  posture := p.valueOr "--posture" "balance_stand"
  stay := stayOf p
  simulated := p.has "--sim"
  gamepad := p.has "--gamepad"
  level := (p.valueOr "--log-level" Level.info.name).bind Level.ofName?
  settingsFile := p.valueOr "--env-file" Settings.defaultFile

def settingsPath (args : List String) : String :=
  match parse grammar args with
  | .ok p => (p.valueOr "--env-file" none).getD Settings.defaultFile
  | .error _ => Settings.defaultFile

inductive Refusal where
  | posture (why : Posture.TextFault)
  | settings (bad : List SettingFault)
  | fault (why : Fault Float)

/-- Some faults are for whoever wrote the request, others are reported where they arise. -/
inductive Handling where
  | misuse
  | reported
  | unhandled
deriving DecidableEq, Repr

def handling : Fault Float → Handling
  | .plan _ => .misuse
  | .noSportLibrary => .misuse
  | .planRunning => .reported
  | .breakdown _ => .reported
  | .callFailed _ => .reported
  | .noGamepadLibrary => .reported
  | .noController => .reported
  | .noTerminal => .reported
  | _ => .unhandled

structure Console where
  terminal : Terminal
  interruptAt : Option Float
deriving Repr

abbrev Step (α : Type) := List (Line Float) × Except Refusal α

def Step.bind {α β : Type} (s : Step α) (next : α → Step β) : Step β :=
  match s.2 with
  | .error why => (s.1, .error why)
  | .ok a =>
    let t := next a
    (s.1 ++ t.1, t.2)

def Step.ofResult {α : Type} (r : Except (Fault Float) α) : Step α :=
  ([], r.mapError Refusal.fault)

def Step.ofSettings {α : Type} (r : Except (List SettingFault) α) : Step α :=
  ([], r.mapError Refusal.settings)

def simulatedLine : String := "Using SIMULATED robot (no actual hardware)"

def checkPosture (r : Request) : Step Posture :=
  if r.mode == "posture" then
    match r.posture with
    | some text => ([], (Posture.read text).mapError Refusal.posture)
    | none => ([], .error (.fault (.missing .posture)))
  else ([], .ok .balanceStand)

/-- The plan of a request to run one is checked before the robot is touched. -/
def checkPlan (r : Request) : Step Unit :=
  if r.mode == "plan" then
    match r.plan with
    | some text =>
      let (segments, notes) := Route.build text 0
      (notes.map .note, (segments.map fun _ => ()).mapError Refusal.fault)
    | none => ([], .error (.fault (.missing .plan)))
  else ([], .ok ())

def openRobot (r : Request) : Step (Simulator Float) :=
  if r.simulated then
    Step.bind ([.print simulatedLine], .ok ()) fun _ =>
      Step.ofResult (Simulator.create Simulator.Setup.standard)
  else ([], .error (.fault .noSportLibrary))

def openBench (e : Environment) (r : Request) : Step (Bench Float) :=
  Step.bind (openRobot r) fun simulator =>
  Step.bind (Step.ofSettings (Settings.gains e)) fun (gains, source) =>
  Step.bind (Step.ofResult (Runner.create gains source)) fun runner =>
  Step.bind (Step.ofResult (Dispatch.ofSpeeds Speeds.standard [])) fun dispatch =>
  Step.bind (Step.ofSettings (Settings.timing e)) fun timing =>
    ([], .ok ⟨.create timing dispatch runner [], .ofSimulator simulator .none⟩)

def openMission (r : Request) (p : Posture) (c : Console) : Step Quadruped.Mission :=
  match r.mode with
  | none => ([], .ok .unnamed)
  | some "plan" => ([], .ok (.plan (r.plan.getD "")))
  | some "posture" => ([], .ok (.hold p r.stay))
  | some _ =>
    if r.gamepad then ([], .error (.fault .noGamepadLibrary))
    else ([], .ok (.teleop (.keyboard .closed c.terminal)))

def prepare (e : Environment) (r : Request) (c : Console) :
    Step (Bench Float × Quadruped.Mission) :=
  Step.bind (checkPosture r) fun p =>
  Step.bind (checkPlan r) fun _ =>
  Step.bind (openBench e r) fun bench =>
  Step.bind (openMission r p c) fun mission => ([], .ok (bench, mission))

def misuse (lines : List (Line Float)) (level : Level) (message : String) : Result :=
  ⟨some 2, lines, usage ++ s!"{programName}: error: {message}\n", level, 0⟩

def errorLine (why : Fault Float) : Line Float := .print ("Error: " ++ why.message)

def refuse (lines : List (Line Float)) (level : Level) : Refusal → Except (Fault Float) Result
  | .posture why => .ok (misuse lines level why.message)
  | .settings bad => .ok (misuse lines level (Settings.messages bad))
  | .fault why =>
    match handling why with
    | .misuse => .ok (misuse lines level why.message)
    | .reported => .ok ⟨some 1, lines ++ [errorLine why], "", level, 0⟩
    | .unhandled => .error why

/-- The end of a mission; an interruption is a normal end. -/
def conclude (lines : List (Line Float)) (level : Level) (f : Finished Quadruped.Mission.State) :
    Except (Fault Float) Result :=
  let lines := lines ++ f.house.lines.reverse
  match Quadruped.Mission.result f with
  | .code n => .ok ⟨some n, lines, "", level, f.now⟩
  | .cancelled => .ok ⟨some 0, lines ++ [.print "\nShutting down..."], "", level, f.now⟩
  | .failed why =>
    if handling why = .reported then .ok ⟨some 1, lines ++ [errorLine why], "", level, f.now⟩
    else .error why

def interface? (e : Environment) (r : Request) : Option String :=
  (r.interface.filter (· != "")).or (Settings.interface? e)

def noInterface : String :=
  "the network interface is required (argument or GO2_NETWORK_INTERFACE)"

def start (o : Settings.Opened) (level : Level) (r : Request) (c : Console) :
    Except (Fault Float) Result :=
  let warnings := o.unreadable.map fun line => .note (.unreadableSetting line)
  match interface? o.environment r with
  | none => .ok (misuse warnings level noInterface)
  | some interface =>
    let (lines, prepared) := prepare o.environment r c
    match prepared with
    | .error why => refuse (warnings ++ lines) level why
    | .ok (bench, mission) =>
      conclude (warnings ++ lines) level
        (Quadruped.Mission.run bench interface mission c.interruptAt)

def begin (e : Environment) (r : Request) (c : Console) : Except (Fault Float) Result :=
  match r.level, r.settingsFile with
  | none, _ => .error (.missing .level)
  | _, none => .error (.missing .settingsFile)
  | some level, some path => do
    let opened ← (Settings.openAt e path).mapError .environment
    start opened level r c

def run (e : Environment) (args : List String) (c : Console) : Except (Fault Float) Result :=
  match parse grammar args with
  | .error .help => .ok ⟨some 0, [.print help], "", .info, 0⟩
  | .error (.fault why) => .ok (misuse [] .info why.message)
  | .ok p => begin e (.ofParsed p) c

end Quadruped.Cli.Operate
