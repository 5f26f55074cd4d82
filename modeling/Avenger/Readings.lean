/-!
# Readings of the clock and of chance

What a run is told when it asks for the time or for a random number, reading by reading.
-/

namespace Avenger

/-- What the clock and chance will show. -/
structure Readings where
  /-- Milliseconds since the start of the year 1970. -/
  clock : Nat → Float
  /-- Numbers from zero to below one. -/
  chance : Nat → Float

namespace Readings

/-- Scatters the bits of a word, so that neighbouring words have nothing in common. -/
def scatter (word : UInt64) : UInt64 :=
  let first := (word ^^^ (word >>> 30)) * 0xBF58476D1CE4E5B9
  let second := (first ^^^ (first >>> 27)) * 0x94D049BB133111EB
  second ^^^ (second >>> 31)

/-- A clock that stands still, and the numbers that follow from a seed. -/
def seeded (time : Float) (seed : UInt64) : Readings :=
  { clock := fun _ => time
    chance := fun reading =>
      let word := scatter (seed + (reading + 1).toUInt64 * 0x9E3779B97F4A7C15)
      Float.ofNat (word >>> 11).toNat / 9007199254740992 }

end Readings

end Avenger
