import Advent.Puzzle.Circuit.Solver
import Advent.Puzzle.Coins
import Advent.Puzzle.Floors
import Advent.Puzzle.Houses
import Advent.Puzzle.Lights
import Advent.Puzzle.Literals
import Advent.Puzzle.NiceStrings
import Advent.Puzzle.Presents
import Advent.Registry.Plugin

/-!
# The calendar

The days that have a solver, with their tags.
-/
namespace Advent.Calendar

def plugins : List Plugin := [
  ⟨2015, 1, Floors.solver, ["2015", "parsing"]⟩,
  ⟨2015, 2, Presents.solver, ["2015", "parsing"]⟩,
  ⟨2015, 3, Houses.solver, ["2015", "grid"]⟩,
  ⟨2015, 4, Coins.solver, ["2015", "brute-force"]⟩,
  ⟨2015, 5, NiceStrings.solver, ["2015", "strings"]⟩,
  ⟨2015, 6, Lights.solver, ["2015", "grid", "simulation"]⟩,
  ⟨2015, 7, Circuits.solver, ["2015", "simulation", "graph"]⟩,
  ⟨2015, 8, Literals.solver, ["2015", "strings"]⟩]

end Advent.Calendar
