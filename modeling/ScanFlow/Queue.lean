import ScanFlow.Json.Basic

/-!
The queues between the orchestrator and the engines.

Three queues carry requests to the engines, three carry completions back.
-/

namespace ScanFlow

/-- A named queue. -/
inductive Queue where
  | saCompile
  | saEngine
  | mlEngine
  | compileFinish
  | saFinish
  | mlFinish
  deriving DecidableEq, Repr

namespace Queue

/-- The queues on which engines answer. -/
def completions : List Queue := [compileFinish, saFinish, mlFinish]

def isCompletion (queue : Queue) : Bool := completions.contains queue

def all : List Queue := [saCompile, saEngine, mlEngine, compileFinish, saFinish, mlFinish]

def wire : Queue → String
  | saCompile => "sa_compile"
  | saEngine => "sa_engine"
  | mlEngine => "ml_engine"
  | compileFinish => "compile_finish"
  | saFinish => "sa_finish"
  | mlFinish => "ml_finish"

def ofWire? : String → Option Queue
  | "sa_compile" => some saCompile
  | "sa_engine" => some saEngine
  | "ml_engine" => some mlEngine
  | "compile_finish" => some compileFinish
  | "sa_finish" => some saFinish
  | "ml_finish" => some mlFinish
  | _ => none

/-- What is said about a word that is no queue. -/
def refusal (word : String) : String := s!"Invalid queue name: {word}"

def toJson (queue : Queue) : Json := .string queue.wire

def ofJson? : Json → Option Queue := Json.word? ofWire?

instance : Wire Queue := ⟨toJson, ofJson?⟩

end Queue

end ScanFlow
