import EntityGraph.Config
import EntityGraph.Json

namespace EntityGraph.Config

def toJson (c : Config) : Json :=
  .ofMembers [("sourceRoot", .ofString c.sourceRoot.display),
    ("skipDebugSystems", .bool c.skipDebugSystems),
    ("componentsOutputPath", .ofString c.componentsOutput.display),
    ("systemsOutputPath", .ofString c.systemsOutput.display),
    ("fileExtension", .ofString c.fileExtension),
    ("threads", (c.threads.map Json.ofNat).getD .null),
    ("ignoreFile", .ofString c.ignoreFile)]

def fieldNames : List String :=
  ["sourceRoot", "skipDebugSystems", "componentsOutputPath", "systemsOutputPath", "fileExtension",
    "threads", "ignoreFile"]

def given {α : Type} (default : α) (read : Json → Option α) : Option Json → Option α
  | none => some default
  | some j => read j

def pathOfJson? (j : Json) : Option Path := j.asText?.map Path.ofString

def threadsOfJson? : Json → Option (Option Nat)
  | .null => some none
  | j => j.asNat?.map some

def fieldsOfJson? (j : Json) : Option (List (Option Json)) :=
  match j with
  | .array items =>
      if items.length ≤ fieldNames.length then
        some (items.map some ++ List.replicate (fieldNames.length - items.length) none)
      else none
  | _ =>
      j.asMembers?.bind fun members =>
        fieldNames.mapM fun name =>
          match members.filter (·.1 = name) with
          | [] => some none
          | [m] => some (some m.2)
          | _ => none

def ofJson? (j : Json) : Option Config :=
  match fieldsOfJson? j with
  | some [some root, skipDebug, components, systems, extension, threads, ignoreFile] => do
      let c := forRoot (← pathOfJson? root)
      some { c with
        skipDebugSystems := ← given c.skipDebugSystems Json.asBool? skipDebug
        componentsOutput := ← given c.componentsOutput pathOfJson? components
        systemsOutput := ← given c.systemsOutput pathOfJson? systems
        fileExtension := ← given c.fileExtension Json.asText? extension
        threads := ← given c.threads threadsOfJson? threads
        ignoreFile := ← given c.ignoreFile Json.asText? ignoreFile }
  | _ => none

end EntityGraph.Config
