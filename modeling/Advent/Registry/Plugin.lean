import Advent.Registry.Basic

/-!
# Plugins

A plugin offers a solver for a day under some tags. A selection takes the plugins that carry all tags
asked for, and installing registers them one after the other.
-/
namespace Advent

structure Plugin where
  year : Nat
  day : Nat
  solver : Solver
  tags : List String

namespace Plugin

def carries (plugin : Plugin) (tags : List String) : Bool :=
  tags.all plugin.tags.contains

def isFor (plugin : Plugin) (year day : Nat) : Bool :=
  plugin.year = year && plugin.day = day

/-- The entry of the plugin: its instances report its own day. -/
def entry (plugin : Plugin) : Entry :=
  ⟨⟨plugin.solver, plugin.year, plugin.day⟩, plugin.solver.parts⟩

def record (plugin : Plugin) : Log.Record where
  level := .trace
  target := "aoc_solver::registry"
  message := "registering plugin"
  fields := [("year", toString plugin.year), ("day", toString plugin.day)]

end Plugin

namespace Registry

def install (registry : Registry) (plugins : List Plugin) : Except RegistrationError Registry :=
  plugins.foldlM (fun registry plugin => registry.register plugin.year plugin.day plugin.entry)
    registry

/-- The registry of the plugins that carry all the tags. -/
def ofPlugins (plugins : List Plugin) (tags : List String) : Except RegistrationError Registry :=
  empty.install (plugins.filter fun plugin => plugin.carries tags)

end Registry

end Advent
