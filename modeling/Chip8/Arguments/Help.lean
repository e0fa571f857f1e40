/-!
# Help

The text that the command line shows when it is asked for help: how the program is called, and a
remark on each of its arguments.
-/

namespace Chip8.Arguments

/-- The lines of the help. -/
def helpLines : List String :=
  ["usage: tinychip.py [-h] [-c CLOCK_SPEED] [-r \x7bpygame,null\x7d] [-s SCALE] [-m]",
   "                   [-k KEYMAP] [--pygame_palette PYGAME_PALETTE] [-d]",
   "                   filename",
   "",
   "positional arguments:",
   "  filename              ROM to execute (normally ending in .ch8 or .c8)",
   "",
   "options:",
   "  -h, --help            show this help message and exit",
   "  -c CLOCK_SPEED, --clock_speed CLOCK_SPEED",
   "                        set the CPU speed in operations/second (default 500, 0",
   "                        = uncapped)",
   "  -r \x7bpygame,null\x7d, --renderer \x7bpygame,null\x7d",
   "                        set the rendering, input, and audio systems (pygame by",
   "                        default)",
   "  -s SCALE, --scale SCALE",
   "                        set the window width in PyGame mode (default 512)",
   "  -m, --mute            mute the emulated buzzer",
   "  -k KEYMAP, --keymap KEYMAP",
   "                        redefine the 16 PyGame keyscan codes for keys 0-F.",
   "                        Separate each decimal with a comma",
   "  --pygame_palette PYGAME_PALETTE",
   "                        redefine the background and foreground colours in",
   "                        comma-separated hex, e.g. 000000,FFFFFF",
   "  -d, --debug           enable live debug output of every instruction. Slows",
   "                        CPU execution"]

def help : String :=
  String.join (helpLines.map fun line => line ++ "\n")

end Chip8.Arguments
