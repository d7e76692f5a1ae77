/-
**Surveys.**

A survey is a crate with its metrics.

* `Survey`: the crate and the metrics;
* `Survey.ofFile`, `Survey.ofSource`: the survey of a root file, and of a source at hand.
-/

import UnsafeCensus.Census.Metrics
import UnsafeCensus.Crate.Loading

namespace UnsafeCensus.Census

open Crate

/-- A crate with its metrics. -/
structure Survey where
  assembly : Assembly
  metrics : Metrics

namespace Survey

/-- The survey of a crate. -/
def ofAssembly (assembly : Assembly) : Except Failure Survey := do
  return ⟨assembly, ← Metrics.ofOutline assembly.map assembly.outline⟩

/-- The survey of a crate from its root file. -/
def ofFile (parser : Parser) (tree : Files.Tree) (follows : Bool) (path : Files.Path) :
    Except Failure Survey := do
  ofAssembly (← assemble parser tree follows path)

/-- The survey of a source at hand. -/
def ofSource (parser : Parser) (name : String) (source : Source.Input) : Except Failure Survey := do
  ofAssembly (← assembleSource parser name source)

end Survey

end UnsafeCensus.Census
