/-!
# The fixed numbers of the system

The sizes of the machine's parts, where things lie in memory, the rates of the clocks, and the glyphs
of the hexadecimal digits.

* `Layout.glyphs` — five bytes a digit, one byte a row, the picture in the upper four bits;
* `Layout.length_glyphs` — sixteen glyphs of `glyphHeight` bytes.
-/

namespace Chip8.Layout

/-- The bytes of addressable memory, `0x000` to `0xFFF`. -/
def memorySize : Nat := 0x1000

/-- Numbers of cells are words of 64 bits with a sign: all lie below this, and none lies below its
negative. -/
def countLimit : Nat := 0x8000000000000000

/-- Where the glyphs lie, at the very bottom of the reserved area. -/
def fontStart : Nat := 0x000

/-- Where programs are loaded and started; everything below is reserved. -/
def programStart : Nat := 0x200

/-- The most return addresses that the call stack holds. -/
def stackDepth : Nat := 16

def registerCount : Nat := 16

def keyCount : Nat := 16

def screenWidth : Nat := 64

def screenHeight : Nat := 32

/-- The cycles per second when nothing else is asked for. -/
def defaultSpeed : Nat := 500

def timerRate : Float := 60.0

def displayRate : Float := 60.0

def glyphHeight : Nat := 5

/-- The pictures of the digits `0` to `F`. -/
def glyphs : List UInt8 :=
  [0xF0, 0x90, 0x90, 0x90, 0xF0,
   0x20, 0x60, 0x20, 0x20, 0x70,
   0xF0, 0x10, 0xF0, 0x80, 0xF0,
   0xF0, 0x10, 0xF0, 0x10, 0xF0,
   0x90, 0x90, 0xF0, 0x10, 0x10,
   0xF0, 0x80, 0xF0, 0x10, 0xF0,
   0xF0, 0x80, 0xF0, 0x90, 0xF0,
   0xF0, 0x10, 0x20, 0x40, 0x40,
   0xF0, 0x90, 0xF0, 0x90, 0xF0,
   0xF0, 0x90, 0xF0, 0x10, 0xF0,
   0xF0, 0x90, 0xF0, 0x90, 0x90,
   0xE0, 0x90, 0xE0, 0x90, 0xE0,
   0xF0, 0x80, 0x80, 0x80, 0xF0,
   0xE0, 0x90, 0x90, 0x90, 0xE0,
   0xF0, 0x80, 0xF0, 0x80, 0xF0,
   0xF0, 0x80, 0xF0, 0x80, 0x80]

theorem length_glyphs : glyphs.length = 16 * glyphHeight := rfl

end Chip8.Layout
