import EntityGraph.Config
import EntityGraph.Toml.Reader

namespace EntityGraph

inductive ConfigError where
  | malformed
  | missing (field : String)
  | wrongType (found : Toml.Value) (expected : String)
  | outOfRange (found : Int) (expected : String)

namespace ConfigError

def message : ConfigError → String
  | .malformed => "malformed document"
  | .missing field => "missing field `" ++ field ++ "`"
  | .wrongType found expected => "invalid type: " ++ found.description ++ ", expected " ++ expected
  | .outOfRange found expected =>
      "invalid value: " ++ (Toml.Value.integer found).description ++ ", expected " ++ expected

end ConfigError

namespace Config

def pathOfToml : Toml.Value → Except ConfigError Path
  | .text s => .ok (.ofString s)
  | v => .error (.wrongType v "path string")

def textOfToml : Toml.Value → Except ConfigError String
  | .text s => .ok s
  | v => .error (.wrongType v "a string")

def flagOfToml : Toml.Value → Except ConfigError Bool
  | .boolean b => .ok b
  | v => .error (.wrongType v "a boolean")

def threadsOfToml : Toml.Value → Except ConfigError Nat
  | .integer n => if n < 0 then .error (.outOfRange n "usize") else .ok n.toNat
  | v => .error (.wrongType v "usize")

def setFromToml (c : Config) (entry : String × Toml.Value) : Except ConfigError Config :=
  match entry.1 with
  | "sourceRoot" => (pathOfToml entry.2).map fun p => { c with sourceRoot := p }
  | "skipDebugSystems" => (flagOfToml entry.2).map fun b => { c with skipDebugSystems := b }
  | "componentsOutputPath" => (pathOfToml entry.2).map fun p => { c with componentsOutput := p }
  | "systemsOutputPath" => (pathOfToml entry.2).map fun p => { c with systemsOutput := p }
  | "fileExtension" => (textOfToml entry.2).map fun s => { c with fileExtension := s }
  | "threads" => (threadsOfToml entry.2).map fun n => { c with threads := some n }
  | "ignoreFile" => (textOfToml entry.2).map fun s => { c with ignoreFile := s }
  | _ => .ok c

/-- Entries of a wrong type are reported in their order, and before a missing source root. -/
def ofEntries (entries : Toml.Entries) : Except ConfigError Config := do
  let c ← entries.foldlM setFromToml (forRoot ⟨[]⟩)
  if entries.any (·.1 = "sourceRoot") then .ok c else .error (.missing "sourceRoot")

def ofToml (text : List Char) : Except ConfigError Config :=
  match Toml.read text with
  | none => .error .malformed
  | some entries => ofEntries entries

end Config

end EntityGraph
