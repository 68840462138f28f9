import TurtleScript.Binary64.Arithmetic

/-!
# Angles

Degrees are turned into radians by one multiplication with the double precision number nearest to
π/180. Sine and cosine are those of the machine's mathematical library: how they round is
not fixed by any standard, so they are the only two functions on numbers that are not defined here.
-/

namespace TurtleScript

namespace Binary64

/-- The number nearest to π/180. -/
def radiansPerDegree : Binary64 := ofBits 0x3F91DF46A2529D39

/-- An angle in radians, from degrees. -/
def radians (degrees : Binary64) : Binary64 := degrees * radiansPerDegree

/-- Turning the other way. -/
theorem radians_neg (degrees : Binary64) : radians (-degrees) = -radians degrees :=
  neg_mul degrees radiansPerDegree

/-- A function of the machine on double precision numbers. -/
private def ofMachine (f : Float → Float) (x : Binary64) : Binary64 :=
  ofBits (f (Float.ofBits x.toBits)).toBits

/-- The sine of an angle in radians. -/
def sin (x : Binary64) : Binary64 := ofMachine Float.sin x

/-- The cosine of an angle in radians. -/
def cos (x : Binary64) : Binary64 := ofMachine Float.cos x

end Binary64

end TurtleScript
