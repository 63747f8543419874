import ApiDocs.Documentation.Index
import ApiDocs.Proofs.Table
import Mathlib.Data.List.Find

namespace ApiDocs.Documentation

/-! The index that a list of members builds.  One case analysis says all that a member can
do to an index.  By induction a list fails with the error of the first member that ends the
work, or it fills a table with what its members document. -/

theorem Entry.read_ok {language : String} {descriptor : Descriptor} {member : Xml.Element}
    {entry : Entry} (h : Entry.read language descriptor member = .ok entry) :
    entry.kind = descriptor.kind ∧ entry.name = descriptor.name := by
  simp only [Entry.read, Outcome.except_bind_eq_ok_iff] at h
  obtain ⟨summary?, -, remarks?, -, returns?, -, example?, -, parameters, -, hentry⟩ := h
  cases hentry
  exact ⟨rfl, rfl⟩

def Error.isMalformed : Error → Bool
  | unnamedMember _ => true
  | memberName (.malformed _) _ => true
  | prose error => error.isMalformed
  | _ => false

theorem proseOf_error {language context : String} {column : Nat} {element : Xml.Element}
    {error : Error} (h : proseOf language context column element = .error error) :
    ∃ cause, error = .prose cause := by
  rw [proseOf] at h
  cases hrender : Prose.render language context column element.toNode with
  | ok output =>
      rw [hrender] at h
      cases h
  | error cause =>
      rw [hrender] at h
      cases h
      exact ⟨cause, rfl⟩

theorem sectionOf_error {language context : String} {member : Xml.Element} {tag : String}
    {error : Error} (h : sectionOf language context member tag = .error error) :
    ∃ cause, error = .prose cause := by
  rw [sectionOf] at h
  cases hfound : member.find? tag with
  | none =>
      rw [hfound] at h
      cases h
  | some element =>
      rw [hfound] at h
      cases hprose : proseOf language context member.position.column element with
      | ok output => simp [hprose, Except.map] at h
      | error other =>
          simp only [hprose, Except.map, Except.error.injEq] at h
          exact proseOf_error (h ▸ hprose)

theorem parametersOf_error {language context : String} {column : Nat} {table : Table String}
    {params : List Xml.Element} {error : Error}
    (h : parametersOf language context column table params = .error error) :
    (∃ cause, error = .prose cause) ∨ ∃ line, error = .unnamedParameter context line := by
  induction params generalizing table with
  | nil => cases h
  | cons param rest ih =>
      rw [parametersOf] at h
      cases hname : param.get? "name" with
      | none =>
          rw [hname] at h
          cases h
          exact .inr ⟨param.position.line, rfl⟩
      | some name =>
          rw [hname] at h
          rcases Outcome.except_bind_eq_error_iff.mp h with hprose | ⟨output, -, hrest⟩
          · exact .inl (proseOf_error hprose)
          · exact ih hrest

theorem Entry.read_error {language : String} {descriptor : Descriptor} {member : Xml.Element}
    {error : Error} (h : Entry.read language descriptor member = .error error) :
    (∃ cause, error = .prose cause) ∨
      ∃ line, error = .unnamedParameter descriptor.name line := by
  simp only [Entry.read, Outcome.except_bind_eq_error_iff] at h
  rcases h with h | ⟨_, -, h | ⟨_, -, h | ⟨_, -, h | ⟨_, -, h | ⟨_, -, h⟩⟩⟩⟩⟩
  · exact .inl (sectionOf_error h)
  · exact .inl (sectionOf_error h)
  · exact .inl (sectionOf_error h)
  · exact .inl (sectionOf_error h)
  · exact parametersOf_error h
  · cases h

def entryOf? (config : Config) (member : Xml.Element) : Option Entry :=
  match memberDescriptor member with
  | .error _ => none
  | .ok descriptor => (Entry.read config.codeLanguage descriptor member).toOption

theorem entryOf?_eq_some {config : Config} {member : Xml.Element}
    {descriptor : Descriptor} {entry : Entry}
    (hname : memberDescriptor member = .ok descriptor)
    (hread : Entry.read config.codeLanguage descriptor member = .ok entry) :
    entryOf? config member = some entry := by
  rw [entryOf?, hname]
  simp [hread, Except.toOption]

theorem entryOf?_eq_none {config : Config} {member : Xml.Element}
    {descriptor : Descriptor} {error : Error}
    (hname : memberDescriptor member = .ok descriptor)
    (hread : Entry.read config.codeLanguage descriptor member = .error error) :
    entryOf? config member = none := by
  rw [entryOf?, hname]
  simp [hread, Except.toOption]

theorem exists_of_entryOf?_isSome {config : Config} {member : Xml.Element}
    (h : (entryOf? config member).isSome = true) :
    ∃ descriptor entry, memberDescriptor member = .ok descriptor ∧
      Entry.read config.codeLanguage descriptor member = .ok entry ∧
      entryOf? config member = some entry := by
  cases hname : memberDescriptor member with
  | error error => simp [entryOf?, hname] at h
  | ok descriptor =>
      cases hread : Entry.read config.codeLanguage descriptor member with
      | error error => simp [entryOf?_eq_none hname hread] at h
      | ok entry => exact ⟨descriptor, entry, rfl, hread, entryOf?_eq_some hname hread⟩

def fatal? (config : Config) (member : Xml.Element) : Option Error :=
  match memberDescriptor member with
  | .error error => some error
  | .ok descriptor =>
      match Entry.read config.codeLanguage descriptor member with
      | .ok _ => none
      | .error error => if error.isMalformed && !config.strict then none else some error

theorem entryOf?_isSome_of_fatal?_eq_none {config : Config} (hstrict : config.strict = true)
    {member : Xml.Element} (h : fatal? config member = none) :
    (entryOf? config member).isSome = true := by
  rw [fatal?] at h
  cases hname : memberDescriptor member with
  | error error => simp [hname] at h
  | ok descriptor =>
      cases hread : Entry.read config.codeLanguage descriptor member with
      | error error => simp [hname, hread, hstrict] at h
      | ok entry => rw [entryOf?_eq_some hname hread, Option.isSome_some]

def entriesOf (config : Config) (members : List Xml.Element) : List (String × Entry) :=
  (members.filterMap (entryOf? config)).map fun entry => (entry.name, entry)

theorem entriesOf_append (config : Config) (first second : List Xml.Element) :
    entriesOf config (first ++ second) = entriesOf config first ++ entriesOf config second := by
  simp [entriesOf]

def isNamed (name : String) (member : Xml.Element) : Bool :=
  match memberDescriptor member with
  | .error _ => false
  | .ok descriptor => descriptor.name = name

def lastNamed? (name : String) (members : List Xml.Element) : Option Xml.Element :=
  members.reverse.find? (isNamed name)

def membersOf (root : Xml.Element) : List Xml.Element :=
  match root.find? "members" with
  | none => []
  | some members => members.named "member"

namespace Index

inductive Addition (config : Config) (index : Index) (member : Xml.Element) :
    Outcome Notice Error Index → Prop
  | unnamed {error : Error} (hname : memberDescriptor member = .error error) :
      Addition config index member (.fail error)
  | added {descriptor : Descriptor} {entry : Entry}
      (hname : memberDescriptor member = .ok descriptor)
      (hread : Entry.read config.codeLanguage descriptor member = .ok entry) :
      Addition config index member
        ⟨importanceNotices member ++
            if index.contains descriptor.name then [.duplicate descriptor.name] else [],
          .ok (index.insert descriptor.name entry)⟩
  | skipped {descriptor : Descriptor} {error : Prose.Error}
      (hname : memberDescriptor member = .ok descriptor)
      (hread : Entry.read config.codeLanguage descriptor member = .error (.prose error))
      (hmalformed : error.isMalformed = true) (hstrict : config.strict = false) :
      Addition config index member
        ⟨importanceNotices member ++ [.memberSkipped descriptor.name error], .ok index⟩
  | unreadable {descriptor : Descriptor} {error : Error}
      (hname : memberDescriptor member = .ok descriptor)
      (hread : Entry.read config.codeLanguage descriptor member = .error error)
      (hfatal : ∀ cause, error = .prose cause → cause.isMalformed = true →
        config.strict = true) :
      Addition config index member ⟨importanceNotices member, .error error⟩

theorem addMember_addition (config : Config) (index : Index) (member : Xml.Element) :
    Addition config index member (addMember config index member) := by
  rw [addMember]
  cases hname : memberDescriptor member with
  | error error => exact .unnamed hname
  | ok descriptor =>
      cases hread : Entry.read config.codeLanguage descriptor member with
      | ok entry =>
          simp only [hread, (Entry.read_ok hread).2]
          exact .added hname hread
      | error error =>
          cases error with
          | prose cause =>
              cases hskip : cause.isMalformed && !config.strict with
              | true =>
                  simp only [Bool.and_eq_true, Bool.not_eq_true'] at hskip
                  simpa [hread, hskip] using Addition.skipped hname hread hskip.1 hskip.2
              | false =>
                  have hfatal : ∀ other, Error.prose cause = .prose other →
                      other.isMalformed = true → config.strict = true := by
                    rintro _ ⟨⟩ hmalformed
                    simpa [hmalformed] using hskip
                  simpa [hread, hskip] using Addition.unreadable hname hread hfatal
          | wrongRoot | noMembers | unnamedMember | memberName | unnamedParameter =>
              simp only [hread]
              exact .unreadable hname hread (by rintro _ ⟨⟩)

theorem addMember_result (config : Config) (index : Index) (member : Xml.Element) :
    (addMember config index member).result =
      match fatal? config member with
      | some error => .error error
      | none => .ok (index.insertAll (entriesOf config [member])) := by
  have addition := addMember_addition config index member
  generalize addMember config index member = outcome at addition
  cases addition with
  | unnamed hname => simp [fatal?, hname, Outcome.fail]
  | added hname hread =>
      simp [fatal?, hname, hread, entriesOf, entryOf?_eq_some hname hread,
        (Entry.read_ok hread).2]
  | skipped hname hread hmalformed hstrict =>
      simp [fatal?, hname, hread, Error.isMalformed, hmalformed, hstrict, entriesOf,
        entryOf?_eq_none hname hread]
  | @unreadable descriptor error hname hread hfatal =>
      have hended : (error.isMalformed && !config.strict) = false := by
        rcases Entry.read_error hread with ⟨cause, rfl⟩ | ⟨line, rfl⟩
        · cases hmalformed : cause.isMalformed with
          | false => simp [Error.isMalformed, hmalformed]
          | true => simp [hfatal cause rfl hmalformed]
        · rfl
      simp [fatal?, hname, hread, hended]

theorem addMembers_result (config : Config) (index : Index) (members : List Xml.Element) :
    (addMembers config index members).result =
      match members.findSome? (fatal? config) with
      | some error => .error error
      | none => .ok (index.insertAll (entriesOf config members)) := by
  induction members generalizing index with
  | nil => rfl
  | cons member rest ih =>
      have hmember := addMember_result config index member
      rw [addMembers, Outcome.bind, hmember, List.findSome?_cons]
      cases fatal? config member with
      | some error => rfl
      | none =>
          have hentries : entriesOf config (member :: rest) =
              entriesOf config [member] ++ entriesOf config rest :=
            entriesOf_append config [member] rest
          rw [Outcome.after_result, ih, hentries, Table.insertAll_append]

theorem get?_addMembers {config : Config} {members : List Xml.Element}
    {index result : Index} (h : (addMembers config index members).result = .ok result)
    (name : String) :
    result.get? name =
      (((members.filterMap (entryOf? config)).reverse.find?
        fun entry => entry.name = name)).or (index.get? name) := by
  rw [addMembers_result] at h
  split at h
  · cases h
  · cases h
    rw [Table.get?_insertAll, entriesOf, ← List.map_reverse, List.find?_map, Option.map_map]
    simp [Function.comp_def]

theorem entryOf?_isSome_of_strict {config : Config} (hstrict : config.strict = true)
    {members : List Xml.Element} {index result : Index}
    (h : (addMembers config index members).result = .ok result) :
    ∀ member ∈ members, (entryOf? config member).isSome = true := by
  rw [addMembers_result] at h
  cases hended : members.findSome? (fatal? config) with
  | some error =>
      rw [hended] at h
      cases h
  | none =>
      intro member hmem
      exact entryOf?_isSome_of_fatal?_eq_none hstrict
        (List.findSome?_eq_none_iff.mp hended member hmem)

theorem addMembers_of_build {config : Config} {root : Xml.Element} {index : Index}
    (h : (build config root).result = .ok index) :
    (addMembers config Table.empty (membersOf root)).result = .ok index := by
  rw [build] at h
  split at h
  · cases h
  · cases hmembers : root.find? "members" with
    | none =>
        rw [hmembers] at h
        cases h
    | some members =>
        rw [hmembers] at h
        obtain ⟨built, hbuilt, hresult⟩ := Outcome.bind_result_eq_ok_iff.mp h
        cases hresult
        rw [membersOf, hmembers]
        exact hbuilt

theorem isNamed_eq_of_entryOf? {config : Config} {member : Xml.Element} (name : String)
    (h : (entryOf? config member).isSome = true) :
    (entryOf? config member).any (fun entry => entry.name = name) =
      isNamed name member := by
  obtain ⟨descriptor, entry, hname, hread, hentry⟩ := exists_of_entryOf?_isSome h
  simp [hentry, isNamed, hname, (Entry.read_ok hread).2]

theorem get?_build_of_strict {config : Config} (hstrict : config.strict = true)
    {root : Xml.Element} {index : Index} (h : (build config root).result = .ok index)
    (name : String) :
    index.get? name = (lastNamed? name (membersOf root)).bind (entryOf? config) := by
  have hadded := addMembers_of_build h
  have hreadable := entryOf?_isSome_of_strict hstrict hadded
  have hfound : (membersOf root).reverse.find?
      (fun member => (entryOf? config member).any fun entry => entry.name = name) =
        lastNamed? name (membersOf root) := by
    apply List.find?_congr
    intro member hmem
    exact isNamed_eq_of_entryOf? name (hreadable member (List.mem_reverse.mp hmem))
  rw [get?_addMembers hadded, ← List.filterMap_reverse, List.find?_filterMap, hfound]
  simp [Table.empty, Table.get?]

theorem get?_of_lastNamed? {config : Config} (hstrict : config.strict = true)
    {root element : Xml.Element} {index : Index} {name : String}
    (h : (build config root).result = .ok index)
    (hlast : lastNamed? name (membersOf root) = some element) :
    ∃ descriptor entry, memberDescriptor element = .ok descriptor ∧
      Entry.read config.codeLanguage descriptor element = .ok entry ∧
      index.get? name = some entry := by
  have hmem := List.mem_reverse.mp (List.mem_of_find?_eq_some hlast)
  have hreadable := entryOf?_isSome_of_strict hstrict (addMembers_of_build h) element hmem
  obtain ⟨descriptor, entry, hname, hread, hentry⟩ := exists_of_entryOf?_isSome hreadable
  refine ⟨descriptor, entry, hname, hread, ?_⟩
  rw [get?_build_of_strict hstrict h, hlast, Option.bind_some, hentry]

end Index

end ApiDocs.Documentation
