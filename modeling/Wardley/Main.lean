import Wardley.Demo
import Wardley.Parsing.SourceFile

/-!
# Command line

Prints the tour of the map in the file that is given, or of the example map.
-/

namespace Wardley

/-- Prints the tour of a map file, or of the example without one. -/
def printTour (arguments : List String) : IO UInt32 := do
  match arguments with
  | [] =>
    (tour (exampleMap .allOn)).forM IO.println
    return 0
  | path :: _ =>
    try
      match decodeFile (← IO.FS.readBinFile path) with
      | .ok text =>
        (tour (parse .allOn text)).forM IO.println
        return 0
      | .error _ =>
        IO.eprintln ("Map file is not UTF-8: " ++ path)
        return 1
    catch _ =>
      IO.eprintln ("Map file not found: " ++ path)
      return 1

end Wardley

/-- The program. -/
def main (arguments : List String) : IO UInt32 := Wardley.printTour arguments
