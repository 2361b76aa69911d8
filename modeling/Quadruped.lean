import Quadruped.Cli.Check
import Quadruped.Cli.Demo
import Quadruped.Main
import Quadruped.Plan.Pilot
import Quadruped.Session.Errands
import Quadruped.Session.Sampling
import Quadruped.Settings.Shared
import Quadruped.SportLink
import Quadruped.Stage
import Quadruped.Proofs.Outcome
import Quadruped.Proofs.Supervisor.Frame
import Quadruped.Proofs.Supervisor.Course
import Quadruped.Proofs.Supervisor.Failsafe
import Quadruped.Proofs.Plan.Rest
import Quadruped.Proofs.Supervisor.PlanMode
import Quadruped.Proofs.Robot
import Quadruped.Proofs.Schedule.Leads
import Quadruped.Proofs.Session.Shutdown
import Quadruped.Proofs.Supervisor.WireTrace
import Quadruped.Proofs.Plan.PlanTrace
import Quadruped.Proofs.Plan.Cancel
import Quadruped.Proofs.Plan.Consistent
import Quadruped.Proofs.Supervisor.Velocities
import Quadruped.Proofs.Supervisor.ModeRace
import Quadruped.Proofs.Supervisor.FailedStart
import Quadruped.Proofs.Supervisor.Release
import Quadruped.Proofs.Supervisor.Delivery
import Quadruped.Proofs.Supervisor.Sound
import Quadruped.Proofs.Supervisor.Latch
import Quadruped.Proofs.SportLink
import Quadruped.Proofs.TurnLoop
import Quadruped.Proofs.Plan.Twins
import Quadruped.Proofs.Plan.HeldHeading
import Quadruped.Proofs.Plan.Timing
import Quadruped.Proofs.Session.Rising
import Quadruped.Proofs.Supervisor.Drain
import Quadruped.Proofs.Supervisor.FailedTick
import Quadruped.Proofs.PointTurn
import Quadruped.Proofs.Wrapping
import Quadruped.Proofs.Pacing
import Quadruped.Proofs.Plan.Reading
import Quadruped.Proofs.Plan.Route
import Quadruped.Proofs.Plan.Acceptance
import Quadruped.Proofs.Settings.Bounds
import Quadruped.Proofs.Teleop.Gamepad
import Quadruped.Proofs.Number.Decimal
import Quadruped.Proofs.Number.Zero
import Quadruped.Proofs.Stage.Acts
import Quadruped.Proofs.Stage.Account
import Quadruped.Proofs.Stage.Standstill
import Quadruped.Proofs.Supervisor.Listeners
import Quadruped.Proofs.Supervisor.Lifeline
import Quadruped.Proofs.Teleop.Stick
import Quadruped.Proofs.Waiting
import Quadruped.Proofs.Teleop.Script
import Quadruped.Proofs.Teleop.Release
