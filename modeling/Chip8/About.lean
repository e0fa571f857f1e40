/-!
# About the program

The name and the version that the program shows of itself, and what it prints when it starts.
-/

namespace Chip8.About

/-- The name of the program. -/
def name : String := "TinyChip Emulator"

/-- The version of the program. -/
def version : String := "1.0.0"

/-- What a greeting or a report starts with. -/
def intro : String := name ++ " V" ++ version ++ " -- "

/-- Whose work the program is, and under which terms it may be used. -/
def terms : String :=
  "Copyright (C) 2022 Gregory Maynard-Hoare, licensed under GNU Affero General Public License v3.0"

/-- What is printed when the program starts. -/
def greeting : String := intro ++ terms

end Chip8.About
