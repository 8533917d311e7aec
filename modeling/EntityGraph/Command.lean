import EntityGraph.Analysis
import EntityGraph.Config.File

namespace EntityGraph

inductive Argument where
  | text (s : String)
  | flag (b : Bool)
  | absent
  | other
  deriving DecidableEq, Repr

structure Parameter where
  name : String
  default : Option Argument
  deriving DecidableEq, Repr

structure Call where
  command : String
  positional : List Argument
  named : List (String × Argument)

inductive Reply where
  | report (r : Report)
  | documents (components systems : String)
  | keys (l : List String)
  | about (version : String) (exports : List String)

inductive CommandError where
  | unknown
  | arguments
  | document
  | analysis (e : AnalysisError)

namespace Command

def version : String := "0.1.0"

def exports : List String := ["AnalysisReport", "analyze", "analyze_config", "build_graph", "search"]

def bindArguments : List Parameter → List Argument → List (String × Argument) → Option (List Argument)
  | [], [], [] => some []
  | [], _, _ => none
  | p :: ps, positional, named =>
      let mine := named.filter (·.1 = p.name)
      let others := named.filter (·.1 ≠ p.name)
      match positional, mine with
      | a :: rest, [] => (bindArguments ps rest others).map (a :: ·)
      | [], [a] => (bindArguments ps [] others).map (a.2 :: ·)
      | [], [] =>
          match p.default with
          | some a => (bindArguments ps [] others).map (a :: ·)
          | none => none
      | _, _ => none

def required (name : String) : Parameter := ⟨name, none⟩

def optional (name : String) (default : Argument) : Parameter := ⟨name, some default⟩

def analyzeParameters : List Parameter :=
  [required "source_root", optional "skip_debug_systems" (.flag true),
    optional "components_output_path" .absent, optional "systems_output_path" .absent]

def graphParameters : List Parameter :=
  [required "source_root", optional "skip_debug_systems" (.flag true)]

def configParameters : List Parameter := [required "path"]

def searchParameters : List Parameter := [required "document", required "term"]

def pathOr (default : Path) : Argument → Option Path
  | .text s => some (.ofString s)
  | .absent => some default
  | _ => none

def analyzeConfig : List Argument → Option Config
  | [.text root, .flag skip, components, systems] => do
      let c := Config.forRoot (.ofString root)
      some { c with
        skipDebugSystems := skip
        componentsOutput := ← pathOr c.componentsOutput components
        systemsOutput := ← pathOr c.systemsOutput systems }
  | _ => none

def graphConfig : List Argument → Option Config
  | [.text root, .flag skip] => some { Config.forRoot (.ofString root) with skipDebugSystems := skip }
  | _ => none

def runWith (t : FileTree) (c : Config) : FileTree × Except CommandError Reply :=
  match run t c with
  | (t', .ok r) => (t', .ok (.report r))
  | (t', .error e) => (t', .error (.analysis e))

def buildGraph (t : FileTree) (c : Config) : Except CommandError Reply :=
  match Analysis.ofTree t c with
  | .ok a => .ok (.documents a.graph.componentsText a.graph.systemsText)
  | .error e => .error (.analysis e)

def search (document term : String) : Except CommandError Reply :=
  match Document.parse? document with
  | some j => .ok (.keys (Document.filter j term))
  | none => .error .document

end Command

namespace Call

open Command

def analyze (t : FileTree) (call : Call) : FileTree × Except CommandError Reply :=
  match (bindArguments analyzeParameters call.positional call.named).bind analyzeConfig with
  | some c => runWith t c
  | none => (t, .error .arguments)

def analyzeFile (t : FileTree) (call : Call) : FileTree × Except CommandError Reply :=
  match bindArguments configParameters call.positional call.named with
  | some [.text path] =>
      match Config.load t (.ofString path) with
      | .ok c => runWith t c
      | .error e => (t, .error (.analysis e))
  | _ => (t, .error .arguments)

def graph (t : FileTree) (call : Call) : Except CommandError Reply :=
  match (bindArguments graphParameters call.positional call.named).bind graphConfig with
  | some c => buildGraph t c
  | none => .error .arguments

def search (call : Call) : Except CommandError Reply :=
  match bindArguments searchParameters call.positional call.named with
  | some [.text document, .text term] => Command.search document term
  | _ => .error .arguments

def run (t : FileTree) (call : Call) : FileTree × Except CommandError Reply :=
  match call.command with
  | "analyze" => analyze t call
  | "analyze_config" => analyzeFile t call
  | "build_graph" => (t, graph t call)
  | "search" => (t, search call)
  | "module" => (t, .ok (.about version exports))
  | _ => (t, .error .unknown)

end Call

end EntityGraph
