import ApiDocs.Documentation.File
import ApiDocs.Proofs.Documentation.Index
import ApiDocs.Proofs.Outcome

namespace ApiDocs.Documentation

/-! The warnings that come with an index: one for each member that is left out before the
work is done or fails. -/

def Notice.isWarning (notice : Notice) : Bool :=
  notice.level = .warning

def warning? (config : Config) (member : Xml.Element) : Option Notice :=
  match memberDescriptor member with
  | .error _ => none
  | .ok descriptor =>
      match Entry.read config.codeLanguage descriptor member with
      | .error (.prose error) =>
          if error.isMalformed && !config.strict then
            some (.memberSkipped descriptor.name error)
          else
            none
      | _ => none

/-- The warnings about the members up to the first that ends the work. -/
def warnings (config : Config) (members : List Xml.Element) : List Notice :=
  (members.takeWhile fun member => (fatal? config member).isNone).filterMap (warning? config)

theorem filter_importanceNotices (member : Xml.Element) :
    (importanceNotices member).filter Notice.isWarning = [] := by
  rw [importanceNotices]
  split
  · rfl
  · split <;> rfl

theorem warning?_eq_none_of_fatal? {config : Config} {member : Xml.Element} {error : Error}
    (h : fatal? config member = some error) : warning? config member = none := by
  rw [fatal?] at h
  rw [warning?]
  cases hname : memberDescriptor member with
  | error error => rfl
  | ok descriptor =>
      cases hread : Entry.read config.codeLanguage descriptor member with
      | ok entry => simp [hread]
      | error cause =>
          cases cause with
          | prose cause =>
              cases hskip : cause.isMalformed && !config.strict with
              | true => simp [hname, hread, Error.isMalformed, hskip] at h
              | false => simp [hread, hskip]
          | _ => simp [hread]

namespace Index

theorem addMember_telling (config : Config) (index : Index) (member : Xml.Element) :
    (addMember config index member).telling Notice.isWarning =
      ⟨(warning? config member).toList, (addMember config index member).result⟩ := by
  have addition := addMember_addition config index member
  generalize addMember config index member = outcome at addition
  cases addition with
  | unnamed hname => simp [warning?, hname, Outcome.telling, Outcome.fail]
  | @added descriptor entry hname hread =>
      have hlight : (if index.contains descriptor.name then [Notice.duplicate descriptor.name]
          else []).filter Notice.isWarning = [] := by
        split <;> rfl
      simp [warning?, hname, hread, Outcome.telling, filter_importanceNotices, hlight]
  | skipped hname hread hmalformed hstrict =>
      simp [warning?, hname, hread, hmalformed, hstrict, Outcome.telling,
        filter_importanceNotices, Notice.isWarning, Notice.level]
  | @unreadable descriptor error hname hread hfatal =>
      have hnone : warning? config member = none := by
        cases error with
        | prose cause =>
            cases hmalformed : cause.isMalformed with
            | true => simp [warning?, hname, hread, hfatal cause rfl hmalformed]
            | false => simp [warning?, hname, hread, hmalformed]
        | _ => simp [warning?, hname, hread]
      simp [hnone, Outcome.telling, filter_importanceNotices]

theorem addMembers_telling (config : Config) (index : Index) (members : List Xml.Element) :
    (addMembers config index members).telling Notice.isWarning =
      ⟨warnings config members, (addMembers config index members).result⟩ := by
  induction members generalizing index with
  | nil => rfl
  | cons member rest ih =>
      have hresult := addMember_result config index member
      rw [addMembers, Outcome.telling_bind, addMember_telling, warnings, List.takeWhile_cons]
      cases hfatal : fatal? config member with
      | some error =>
          rw [hfatal] at hresult
          simp [Outcome.bind, hresult, warning?_eq_none_of_fatal? hfatal]
      | none =>
          rw [hfatal] at hresult
          simp only [Outcome.bind, hresult, ih, Outcome.after, Option.isNone_none, if_true,
            List.filterMap_cons, warnings]
          cases warning? config member <;> rfl

theorem build_telling (config : Config) (root : Xml.Element) :
    (build config root).telling Notice.isWarning =
      ⟨if root.tag = "doc" then warnings config (membersOf root) else [],
        (build config root).result⟩ := by
  by_cases htag : root.tag = "doc"
  · rw [build, if_neg (not_not_intro htag), if_pos htag, membersOf]
    cases root.find? "members" with
    | none => rfl
    | some list =>
        have hcount : ∀ index : Index,
            (⟨[.loaded index.size], .ok index⟩ : Outcome Notice Error Index).telling
              Notice.isWarning = .ok index := fun _ => rfl
        simp only [ofMembers, Outcome.telling_bind, addMembers_telling, hcount]
        simp only [Outcome.bind]
        cases (addMembers config Table.empty (list.named "member")).result with
        | error error => rfl
        | ok index => simp [Outcome.after, Outcome.ok]
  · rw [build, if_pos htag, if_neg htag]
    rfl

end Index

def membersIn (tree : FileTree) (directory : Place) (path : Path) : List Xml.Element :=
  match tree.read directory path with
  | .error _ => []
  | .ok bytes =>
      match Xml.Element.ofBytes bytes with
      | .error _ => []
      | .ok root => if root.tag = "doc" then membersOf root else []

theorem load_telling_notices (config : Config) (tree : FileTree) (directory : Place)
    (path : Path) :
    ((load config tree directory path).telling Notice.isWarning).notices =
      warnings config (membersIn tree directory path) := by
  simp only [load, ofBytes, Outcome.telling_bind, Outcome.telling_mapError,
    Outcome.telling_ofExcept, Index.build_telling, membersIn]
  cases tree.read directory path with
  | error fault => rfl
  | ok bytes =>
      simp only [Outcome.ofExcept_ok_bind, Outcome.except_mapError_ok]
      cases Xml.Element.ofBytes bytes with
      | error failure => rfl
      | ok root =>
          simp only [Outcome.ofExcept_ok_bind, Outcome.except_mapError_ok, Outcome.mapError]
          split <;> rfl

end ApiDocs.Documentation
