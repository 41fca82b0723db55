/-!
# Help

The texts that explain the command line, in a short and a long form. Both show the input directory
that the environment names.
-/
namespace Advent

def versionLine : String := "aoc 0.1.0"

def shortHelp (directory : String) : List String := [
  "Run Advent of Code solvers against local puzzle inputs",
  "",
  "Usage: aoc [OPTIONS]",
  "",
  "Options:",
  "  -y, --year <YEAR>",
  "          Year to run (runs all years if omitted)",
  "  -d, --day <DAY>",
  "          Day to run (runs all days if omitted)",
  "  -p, --part <PART>",
  "          Part to run (runs all parts if omitted)",
  "  -t, --tags <TAGS>",
  "          Tags to filter solvers (comma-separated, all must match)",
  "      --input-dir <INPUT_DIR>",
  "          Directory holding `\x7byear\x7d_day\x7bDD\x7d.txt` input files [env: AOC_INPUT_DIR=" ++ directory ++ "] [default: inputs]",
  "  -i, --input <INPUT>",
  "          Read the puzzle input from this file (requires --year and --day)",
  "      --threads <THREADS>",
  "          Number of threads for parallel execution",
  "      --parallelize-by <PARALLELIZE_BY>",
  "          Parallelization level: sequential, year, day, or part [default: day] [possible values: sequential, year, day, part]",
  "      --list",
  "          List the registered solvers matching the filters and exit",
  "  -q, --quiet",
  "          Quiet mode - only output answers",
  "  -v, --verbose...",
  "          Increase log verbosity (-v info, -vv debug, -vvv trace); RUST_LOG overrides",
  "  -h, --help",
  "          Print help (see more with '--help')",
  "  -V, --version",
  "          Print version"]

def longHelp (directory : String) : List String := [
  "Run Advent of Code solvers against local puzzle inputs",
  "",
  "Usage: aoc [OPTIONS]",
  "",
  "Options:",
  "  -y, --year <YEAR>",
  "          Year to run (runs all years if omitted)",
  "",
  "  -d, --day <DAY>",
  "          Day to run (runs all days if omitted)",
  "",
  "  -p, --part <PART>",
  "          Part to run (runs all parts if omitted)",
  "",
  "  -t, --tags <TAGS>",
  "          Tags to filter solvers (comma-separated, all must match)",
  "",
  "      --input-dir <INPUT_DIR>",
  "          Directory holding `\x7byear\x7d_day\x7bDD\x7d.txt` input files",
  "          ",
  "          [env: AOC_INPUT_DIR=" ++ directory ++ "]",
  "          [default: inputs]",
  "",
  "  -i, --input <INPUT>",
  "          Read the puzzle input from this file (requires --year and --day)",
  "",
  "      --threads <THREADS>",
  "          Number of threads for parallel execution",
  "",
  "      --parallelize-by <PARALLELIZE_BY>",
  "          Parallelization level: sequential, year, day, or part",
  "",
  "          Possible values:",
  "          - sequential: No parallelization; execute all solvers sequentially in order",
  "          - year:       Parallelize across years; days and parts run sequentially within each year",
  "          - day:        Parallelize across year/day combinations; parts run sequentially (default)",
  "          - part:       Parallelize across all year/day/part combinations",
  "          ",
  "          [default: day]",
  "",
  "      --list",
  "          List the registered solvers matching the filters and exit",
  "",
  "  -q, --quiet",
  "          Quiet mode - only output answers",
  "",
  "  -v, --verbose...",
  "          Increase log verbosity (-v info, -vv debug, -vvv trace); RUST_LOG overrides",
  "",
  "  -h, --help",
  "          Print help (see a summary with '-h')",
  "",
  "  -V, --version",
  "          Print version"]

end Advent
