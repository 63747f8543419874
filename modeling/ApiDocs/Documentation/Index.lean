import ApiDocs.Documentation.Entry
import ApiDocs.Outcome

namespace ApiDocs.Documentation

/-! The index of documented symbols.  A member that names a symbol again replaces what was
read before, in its old place. -/

abbrev Index := Table Entry

namespace Index

def importance (index : Index) (name : String) : Int :=
  ((index.get? name).map Entry.importance).getD 0

def addMember (config : Config) (index : Index) (member : Xml.Element) :
    Outcome Notice Error Index :=
  match memberDescriptor member with
  | .error error => .fail error
  | .ok descriptor =>
      let before := importanceNotices member
      match Entry.read config.codeLanguage descriptor member with
      | .ok entry =>
          ⟨before ++ (if index.contains entry.name then [.duplicate entry.name] else []),
            .ok (index.insert entry.name entry)⟩
      | .error (.prose error) =>
          if error.isMalformed && !config.strict then
            ⟨before ++ [.memberSkipped descriptor.name error], .ok index⟩
          else
            ⟨before, .error (.prose error)⟩
      | .error error => ⟨before, .error error⟩

def addMembers (config : Config) (index : Index) :
    List Xml.Element → Outcome Notice Error Index
  | [] => .ok index
  | member :: rest => (addMember config index member).bind (addMembers config · rest)

def ofMembers (config : Config) (members : List Xml.Element) : Outcome Notice Error Index :=
  (addMembers config Table.empty members).bind fun index =>
    ⟨[.loaded index.size], .ok index⟩

def build (config : Config) (root : Xml.Element) : Outcome Notice Error Index :=
  if root.tag ≠ "doc" then
    .fail (.wrongRoot root.tag)
  else
    match root.find? "members" with
    | none => .fail .noMembers
    | some members => ofMembers config (members.named "member")

end Index

end ApiDocs.Documentation
