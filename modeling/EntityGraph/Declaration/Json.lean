import EntityGraph.Declaration
import EntityGraph.Json

namespace EntityGraph

namespace DeclarationKind

def label : DeclarationKind → String
  | .classType => "class"
  | .structType => "struct"
  | .interfaceType => "interface"
  | .recordType => "record"

def ofLabel? (s : String) : Option DeclarationKind :=
  [classType, structType, interfaceType, recordType].find? (·.label = s)

theorem ofLabel?_label (k : DeclarationKind) : ofLabel? k.label = some k := by
  cases k <;> decide

def ofJson? : Json → Option DeclarationKind
  | .text written => (Json.string? written).bind ofLabel?
  | .object [(written, .null)] => (Json.string? written).bind ofLabel?
  | _ => none

end DeclarationKind

namespace TypeSyntax

def toJson : TypeSyntax → Json
  | .generic name arguments =>
      .ofMembers [("Generic", .ofMembers [("name", .ofString name), ("arguments", .ofStrings arguments)])]
  | .plain text => .ofMembers [("Plain", .ofString text)]

def ofJson? (j : Json) : Option TypeSyntax :=
  match j.asMembers? with
  | some [("Generic", content)] =>
      match content.asRecord? ["name", "arguments"] with
      | some [name, arguments] => do
          some (.generic (← name.asText?) (← arguments.asList? Json.asText?))
      | _ => none
  | some [("Plain", content)] => content.asText?.map .plain
  | _ => none

end TypeSyntax

namespace FieldStatement

def toJson (f : FieldStatement) : Json :=
  .ofMembers [("modifiers", .ofString f.modifiers), ("type_text", .ofString f.typeText),
    ("type_syntax", f.type.toJson), ("variables", .ofStrings f.names),
    ("start_byte", .ofNat f.start)]

def ofJson? (j : Json) : Option FieldStatement :=
  match j.asRecord? ["modifiers", "type_text", "type_syntax", "variables", "start_byte"] with
  | some [modifiers, typeText, type, names, start] => do
      some ⟨← modifiers.asText?, ← typeText.asText?, ← TypeSyntax.ofJson? type,
        ← names.asList? Json.asText?, ← start.asNat?⟩
  | _ => none

end FieldStatement

namespace Invocation

def toJson (i : Invocation) : Json :=
  .ofMembers [("member_name", .ofString i.member), ("type_arguments", .ofStrings i.typeArguments)]

def ofJson? (j : Json) : Option Invocation :=
  match j.asRecord? ["member_name", "type_arguments"] with
  | some [member, typeArguments] => do
      some ⟨← member.asText?, ← typeArguments.asList? Json.asText?⟩
  | _ => none

end Invocation

namespace MethodBody

def toJson (b : MethodBody) : Json :=
  .ofMembers [("invocations", .array (b.invocations.map Invocation.toJson))]

def ofJson? (j : Json) : Option MethodBody :=
  match j.asRecord? ["invocations"] with
  | some [invocations] => (invocations.asList? Invocation.ofJson?).map MethodBody.mk
  | _ => none

end MethodBody

namespace Declaration

mutual

def toJson : Declaration → Json
  | ⟨fullName, shortName, kind, baseTypes, fields, nested, methods⟩ =>
      .ofMembers [("fully_qualified_name", .ofString fullName), ("short_name", .ofString shortName),
        ("kind", .ofString kind.label), ("base_type_names", .ofStrings baseTypes.toList),
        ("fields", .array (fields.map FieldStatement.toJson)), ("nested", .array (toJsonAll nested)),
        ("methods", .ofMembers (methods.entries.map fun e => (e.1, e.2.toJson)))]

def toJsonAll : List Declaration → List Json
  | [] => []
  | d :: ds => toJson d :: toJsonAll ds

end

def methodsOfJson? (j : Json) : Option (Catalog MethodBody) :=
  (j.asMembers?.bind fun members =>
    members.mapM fun m => (MethodBody.ofJson? m.2).map (m.1, ·)).map Catalog.ofList

def ofJsonWithin : Nat → Json → Option Declaration
  | 0, _ => none
  | fuel + 1, j =>
      match j.asRecord? ["fully_qualified_name", "short_name", "kind", "base_type_names", "fields",
        "nested", "methods"] with
      | some [fullName, shortName, kind, baseTypes, fields, nested, methods] => do
          some ⟨← fullName.asText?, ← shortName.asText?, ← DeclarationKind.ofJson? kind,
            NameSet.ofList (← baseTypes.asList? Json.asText?),
            ← fields.asList? FieldStatement.ofJson?,
            ← nested.asList? (ofJsonWithin fuel), ← methodsOfJson? methods⟩
      | _ => none

def ofJson? (j : Json) : Option Declaration :=
  ofJsonWithin (j.depth + 1) j

end Declaration

end EntityGraph
