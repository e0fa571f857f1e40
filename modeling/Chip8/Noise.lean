/-!
# Noise

The random bytes of a machine, all of them laid down beforehand, and how many have been drawn. So a
machine with the same noise always runs the same way.

* `Noise.draw` — takes the next byte;
* `Noise.cycling` — the bytes of a list over and over;
* `Noise.ofSeed` — bytes without an evident pattern, another row of them for each seed.
-/

namespace Chip8

/-- Random bytes, of which some have been drawn. -/
structure Noise where
  /-- The bytes in the order in which they are drawn. -/
  bytes : Nat → UInt8
  drawn : Nat := 0

namespace Noise

/-- The bytes of a list over and over, or zeros for ever if it is empty. -/
def cycling (bytes : List UInt8) : Noise where
  bytes n := bytes.getD (n % bytes.length) 0

/-- Scatters the bits of a number over all places. -/
def scatter (z : UInt64) : UInt64 :=
  let z := (z ^^^ (z >>> 30)) * 0xBF58476D1CE4E5B9
  let z := (z ^^^ (z >>> 27)) * 0x94D049BB133111EB
  z ^^^ (z >>> 31)

/-- The highest bytes of scattered numbers that follow each other in equal steps from the seed. -/
def ofSeed (seed : UInt64) : Noise where
  bytes n := (scatter (seed + UInt64.ofNat (n + 1) * 0x9E3779B97F4A7C15) >>> 56).toUInt8

/-- The next byte, and the noise without it. -/
def draw (noise : Noise) : UInt8 × Noise :=
  (noise.bytes noise.drawn, { noise with drawn := noise.drawn + 1 })

@[simp] theorem drawn_draw (noise : Noise) : noise.draw.2.drawn = noise.drawn + 1 := rfl

end Noise

end Chip8
