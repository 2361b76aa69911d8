/-!
Where the robot is and which way it faces. Only the plane position and the heading steer it.
-/
namespace Quadruped

structure Pose (R : Type) where
  x : R
  y : R
  z : R
  yaw : R
  time : R
deriving DecidableEq, Repr

def Pose.position {R : Type} (p : Pose R) : R × R × R := (p.x, p.y, p.z)

end Quadruped
