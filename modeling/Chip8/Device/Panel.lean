import Chip8.About
import Chip8.Answer
import Chip8.Device.Call
import Chip8.Device.Palette
import Chip8.Screen

/-!
# Panels

A panel shows pictures and a title. A headless one only keeps what it was given last, so that it can
be looked at; one with a window keeps the same, and also makes the calls that bring it to the window.
A picture is made at the size of the screen and stretched to the size of the window.

* `Panel.headless`, `Panel.openWindow` — the two kinds; a window fails to open without a width or on a
  bad palette, after the display has been taken into use;
* `Panel.display`, `Panel.setTitle`, `Panel.shutdown` — what a panel is used for;
* `Panel.frame_display`, `Panel.title_setTitle` — either kind keeps what it was given.
-/

namespace Chip8

/-- What a panel needs to use its window. -/
structure Window where
  width : Int
  height : Int
  palette : Palette
  deriving DecidableEq

/-- Why a window cannot be opened. -/
inductive WindowError
  | noWidth
  | noPalette
  | palette (cause : PaletteError)
  deriving DecidableEq

/-- The text for the user, if there is one. -/
def WindowError.message? : WindowError → Option String
  | .noWidth | .noPalette => none
  | .palette cause => cause.message?

/-- Shows pictures and a title. -/
structure Panel where
  /-- The window, unless the panel is headless. -/
  window : Option Window
  /-- The width of the window; of no effect on a headless panel. -/
  scale : Int
  title : String := ""
  /-- The picture that was shown last. -/
  frame : Option Frame := none

namespace Panel

/-- The width of a window when the user asks for none. -/
def standardWidth : Int := 512

def headless (scale : Option Int) : Panel where
  window := none
  scale := scale.getD 1

def setTitle (p : Panel) (title : String) : Traced Panel where
  value := { p with title }
  calls := if p.window.isSome then [.setCaption title] else []

/-- Reads the palette for a window. -/
def palette (choice : Option (Answer String)) : Except WindowError Palette :=
  match choice.getD (.given Palette.standardText) with
  | .blank => .error .noPalette
  | .given text => (Palette.parse text).mapError .palette

/-- Opens a window half as high as wide and reads the palette for it. These are the calls that are made if
the host carries them out; it may refuse a window whose width is below zero, for example, and then
`Session.conduct` tells where it ends. -/
def openWindow (scale : Option (Answer Int)) (choice : Option (Answer String)) :
    Traced (Except WindowError Panel) := do
  Traced.call .openDisplay
  match scale.getD (.given standardWidth) with
  | .blank => return .error .noWidth
  | .given width =>
    let height := width / 2
    Traced.call (.setMode width height)
    match palette choice with
    | .error cause => return .error cause
    | .ok palette =>
      let panel : Panel := { window := some { width, height, palette }, scale := width }
      return .ok (← panel.setTitle About.name)

/-- The calls that bring a picture to a window. The width of the image is that of the first row. -/
def Window.displayCalls (w : Window) (frame : Frame) : List DeviceCall :=
  [.makeImage (w.palette.bytes frame) (frame.headD []).length frame.length,
   .stretch w.width w.height, .blit 0 0, .present]

def display (p : Panel) (frame : Frame) : Traced Panel where
  value := { p with frame := some frame }
  calls := match p.window with
    | none => []
    | some window => Window.displayCalls window frame

/-- Gives the display back. -/
def shutdown (p : Panel) : Traced Panel where
  value := p
  calls := if p.window.isSome then [.closeDisplay] else []

@[simp] theorem title_setTitle (p : Panel) (title : String) :
    (p.setTitle title).value.title = title := rfl

@[simp] theorem frame_setTitle (p : Panel) (title : String) :
    (p.setTitle title).value.frame = p.frame := rfl

@[simp] theorem frame_display (p : Panel) (frame : Frame) :
    (p.display frame).value.frame = some frame := rfl

@[simp] theorem title_display (p : Panel) (frame : Frame) :
    (p.display frame).value.title = p.title := rfl

end Panel

end Chip8
