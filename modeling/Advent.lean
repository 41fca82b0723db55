import Advent.Calendar
import Advent.Derive.Expansion
import Advent.Main
import Advent.Proofs.Registry.Factories
import Advent.Proofs.Run.Ordering
import Advent.Proofs.Run.WorkItems
import Advent.Proofs.Solver.Calls
import Advent.Proofs.Puzzle.Coins
import Advent.Proofs.Run.SingleWorker
import Advent.Proofs.Run.Outcomes
import Advent.Proofs.Run.Writing
import Advent.Proofs.Run.Printing
import Advent.Proofs.Puzzle.Circuit.Memory
import Advent.Proofs.Puzzle.FreshAnswers
import Advent.Proofs.Run.Modes
import Advent.Proofs.Puzzle.Circuit.Derivations
import Advent.Proofs.Puzzle.Circuit.Settling
import Advent.Proofs.Run.Release
import Advent.Proofs.Registry.Registrations
import Advent.Proofs.Registry.Installation
import Advent.Proofs.Puzzle.Completion
import Advent.Proofs.Run.FailedSends
import Advent.Proofs.Run.Inputs
import Advent.Proofs.Run.Isolation
import Advent.Proofs.Text.Numerals
import Advent.Proofs.Text.BadLines
import Advent.Proofs.Puzzle.Lines
import Advent.Proofs.Text.Splitting
import Advent.Proofs.Puzzle.Instructions
import Advent.Proofs.Puzzle.Circuit.Connections
import Advent.Proofs.Puzzle.LineReports
import Advent.Proofs.Puzzle.Circuit.Layout
import Advent.Proofs.Puzzle.Circuit.Rewiring
import Advent.Proofs.Puzzle.Circuit.Orders
import Advent.Proofs.Puzzle.LightFolds
import Advent.Proofs.Puzzle.Encoding
import Advent.Proofs.Puzzle.LowestCoins
import Advent.Proofs.Puzzle.Pieces
import Advent.Proofs.Puzzle.Turns
import Advent.Proofs.Run.ParseTimes
import Advent.Proofs.Puzzle.Neighbours
import Advent.Proofs.Puzzle.Measures
import Advent.Proofs.Puzzle.Basement
import Advent.Proofs.Puzzle.Corners
import Advent.Proofs.Text.Layout
import Advent.Proofs.Puzzle.SameLines
import Advent.Proofs.Run.Selections
import Advent.Proofs.Run.Draining
import Advent.Proofs.Run.DurationTexts
import Advent.Proofs.Derive.Arguments
import Advent.Proofs.Derive.Expansions
import Advent.Proofs.Derive.Dispatches
import Advent.Proofs.Derive.Ranges
import Advent.Proofs.Derive.Tags
import Advent.Proofs.Run.ExplicitInputs
import Advent.Proofs.Text.StrayCharacters
import Advent.Proofs.Puzzle.StrayInstructions
