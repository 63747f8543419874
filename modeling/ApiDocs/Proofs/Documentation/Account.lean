import ApiDocs.Proofs.Documentation.Index

namespace ApiDocs

/-! The log of an index as an account of the members of the document.  A member brings a new
name, replaces an entry or is left out.  The log has a record of each that does not bring a new
name, so that the records and the names together are as many as the members. -/

namespace LogRecord

def opensWith (level : Level) (words : String) (entry : LogRecord) : Bool :=
  entry.level = level && words.toList.isPrefixOf entry.message.toList

theorem opensWith_append (level : Level) (source words rest : String) :
    opensWith level words ⟨level, source, words ++ rest⟩ = true := by
  rw [opensWith, Bool.and_eq_true, decide_eq_true_eq, List.isPrefixOf_iff_prefix,
    String.toList_append]
  exact ⟨rfl, List.prefix_append _ _⟩

theorem opensWith_append_of_not_prefix {words start : String}
    (hlength : words.toList.length ≤ start.toList.length)
    (h : words.toList.isPrefixOf start.toList = false) (level : Level) (source rest : String) :
    opensWith level words ⟨level, source, start ++ rest⟩ = false := by
  have hnot : ¬ words.toList <+: start.toList ++ rest.toList := by
    intro hprefix
    have hstart := List.prefix_of_prefix_length_le hprefix (List.prefix_append _ _) hlength
    rw [List.isPrefixOf_iff_prefix.mpr hstart] at h
    cases h
  rw [opensWith, Bool.and_eq_false_iff, String.toList_append, ← Bool.not_eq_true,
    ← Bool.not_eq_true, List.isPrefixOf_iff_prefix]
  exact .inr hnot

end LogRecord

namespace Documentation

namespace Notice

def isSkip : Notice → Bool
  | memberSkipped _ _ => true
  | _ => false

def isDuplicate : Notice → Bool
  | duplicate _ => true
  | _ => false

theorem opensWith_skipping (notice : Notice) :
    notice.logged.opensWith .warning "skipping documentation of " = notice.isSkip := by
  cases notice with
  | memberSkipped name error =>
      have hlogged : (memberSkipped name error).logged = ⟨.warning, "xmldoc_md.docindex",
          "skipping documentation of " ++ (name ++ (": " ++ error.message))⟩ := by
        rw [← String.append_assoc, ← String.append_assoc]
        rfl
      rw [hlogged, LogRecord.opensWith_append, isSkip]
  | _ => rfl

theorem opensWith_duplicate (notice : Notice) :
    notice.logged.opensWith .debug "duplicate documentation for " = notice.isDuplicate := by
  cases notice with
  | importanceIgnored line =>
      exact LogRecord.opensWith_append_of_not_prefix (by decide) (by decide) _ _ _
  | duplicate name =>
      have hlogged : (duplicate name).logged = ⟨.debug, "xmldoc_md.docindex",
          "duplicate documentation for " ++ (name ++ ", keeping the last")⟩ := by
        rw [← String.append_assoc]
        rfl
      rw [hlogged, LogRecord.opensWith_append, isDuplicate]
  | _ => rfl

end Notice

def logOf (config : Config) (root : Xml.Element) : List LogRecord :=
  (Index.build config root).notices.map Notice.logged

/-- How a log accounts for the members of a document. -/
structure Accounts (config : Config) (root : Xml.Element) (index : Index) : Prop where
  conserved : (membersOf root).length = index.size +
    (logOf config root).countP (·.opensWith .warning "skipping documentation of ") +
    (logOf config root).countP (·.opensWith .debug "duplicate documentation for ")
  loaded : ∃ earlier, logOf config root = earlier ++
      [⟨.info, "xmldoc_md.docindex", "loaded documentation for " ++ toString index.size ++
        " members"⟩] ∧
    ∀ entry ∈ earlier, entry.level ≠ .info
  lenient : ∀ entry ∈ logOf config root, entry.level = .warning →
    config.strict = false ∧ entry.opensWith .warning "skipping documentation of " = true
  duplicate : ∀ earlier name later,
    (Index.build config root).notices = earlier ++ .duplicate name :: later →
    ∃ before member after current entry, membersOf root = before ++ member :: after ∧
      (Index.addMembers config Table.empty before).result = .ok current ∧
      earlier = (Index.addMembers config Table.empty before).notices ++
        importanceNotices member ∧
      entryOf? config member = some entry ∧ entry.name = name ∧ name ∈ current.keys
  skipped : ∀ before member after, membersOf root = before ++ member :: after →
    entryOf? config member = none →
    ∃ current descriptor error,
      (Index.addMembers config Table.empty before).result = .ok current ∧
      memberDescriptor member = .ok descriptor ∧
      Index.addMember config current member =
        ⟨importanceNotices member ++ [.memberSkipped descriptor.name error], .ok current⟩

theorem importanceNotices_cases (member : Xml.Element) :
    importanceNotices member = [] ∨
      ∃ line, importanceNotices member = [.importanceIgnored line] := by
  rw [importanceNotices]
  split
  · exact .inl rfl
  · split
    · exact .inl rfl
    · exact .inr ⟨_, rfl⟩

theorem countP_importanceNotices {p : Notice → Bool}
    (h : ∀ line, p (.importanceIgnored line) = false) (member : Xml.Element) :
    (importanceNotices member).countP p = 0 := by
  rcases importanceNotices_cases member with hnone | ⟨line, hline⟩
  · rw [hnone, List.countP_nil]
  · rw [hline, List.countP_singleton, h]
    rfl

theorem append_eq_append_cons {α : Type} {left right before after : List α} {x : α}
    (h : left ++ right = before ++ x :: after) :
    (∃ rest, before = left ++ rest ∧ right = rest ++ x :: after) ∨
      ∃ rest, left = before ++ x :: rest := by
  rcases List.append_eq_append_iff.mp h with ⟨rest, hbefore, hright⟩ | ⟨rest, hleft, hafter⟩
  · exact .inl ⟨rest, hbefore, hright⟩
  · cases rest with
    | nil => exact .inl ⟨[], by simpa using hleft.symm, by simpa using hafter.symm⟩
    | cons y more =>
        obtain ⟨rfl, -⟩ := List.cons.inj hafter
        exact .inr ⟨more, hleft⟩

namespace Index

theorem addMember_account {config : Config} {index next : Index} {member : Xml.Element}
    (h : (addMember config index member).result = .ok next) :
    index.size + 1 = next.size +
      (addMember config index member).notices.countP Notice.isSkip +
      (addMember config index member).notices.countP Notice.isDuplicate := by
  have hskip := countP_importanceNotices (p := Notice.isSkip) (fun _ => rfl) member
  have hduplicate := countP_importanceNotices (p := Notice.isDuplicate) (fun _ => rfl) member
  have addition := addMember_addition config index member
  generalize addMember config index member = outcome at addition h ⊢
  cases addition with
  | unnamed hname => cases h
  | @added descriptor entry hname hread =>
      cases h
      rw [Table.size_insert]
      by_cases hcontains : index.contains descriptor.name = true
      · simp [hcontains, hskip, hduplicate, Notice.isSkip, Notice.isDuplicate]
      · simp [hcontains, hskip, hduplicate]
  | skipped hname hread hmalformed hstrict =>
      cases h
      simp [hskip, hduplicate, Notice.isSkip, Notice.isDuplicate]
  | unreadable hname hread hfatal => cases h

theorem addMembers_account {config : Config} {members : List Xml.Element} {index result : Index}
    (h : (addMembers config index members).result = .ok result) :
    index.size + members.length = result.size +
      (addMembers config index members).notices.countP Notice.isSkip +
      (addMembers config index members).notices.countP Notice.isDuplicate := by
  induction members generalizing index with
  | nil =>
      cases h
      rfl
  | cons member rest ih =>
      rw [addMembers] at h ⊢
      obtain ⟨next, hmember, hrest⟩ := Outcome.bind_result_eq_ok_iff.mp h
      have hstep := addMember_account hmember
      have hlater := ih hrest
      simp only [Outcome.bind, hmember, Outcome.after, List.countP_append, List.length_cons]
      omega

/-- Whatever is told on the way is told of one of the members, when those before it have been
added. -/
theorem exists_member_of_notice {config : Config} {members : List Xml.Element} {index : Index}
    {earlier later : List Notice} {notice : Notice}
    (h : (addMembers config index members).notices = earlier ++ notice :: later) :
    ∃ before member after current first last, members = before ++ member :: after ∧
      (addMembers config index before).result = .ok current ∧
      (addMember config current member).notices = first ++ notice :: last ∧
      earlier = (addMembers config index before).notices ++ first := by
  induction members generalizing index earlier with
  | nil => simp [addMembers, Outcome.ok] at h
  | cons member rest ih =>
      rw [addMembers, Outcome.bind] at h
      cases hmember : (addMember config index member).result with
      | error error =>
          rw [hmember] at h
          exact ⟨[], member, rest, index, earlier, later, rfl, rfl, h, rfl⟩
      | ok next =>
          rw [hmember] at h
          rcases append_eq_append_cons h with ⟨first, rfl, hrest⟩ | ⟨last, hfirst⟩
          · obtain ⟨before, other, after, current, own, last, rfl, hbefore, hown, rfl⟩ := ih hrest
            refine ⟨member :: before, other, after, current, own, last, rfl, ?_, hown, ?_⟩
            · rw [addMembers, Outcome.bind_result_eq_ok_iff]
              exact ⟨next, hmember, hbefore⟩
            · simp only [addMembers, Outcome.bind, hmember, Outcome.after, List.append_assoc]
          · exact ⟨[], member, rest, index, earlier, last, rfl, rfl, hfirst, rfl⟩

theorem duplicate_of_addMember {config : Config} {index : Index} {member : Xml.Element}
    {first last : List Notice} {name : String}
    (h : (addMember config index member).notices = first ++ .duplicate name :: last) :
    first = importanceNotices member ∧
      ∃ entry, entryOf? config member = some entry ∧ entry.name = name ∧ name ∈ index.keys := by
  have hnot : .duplicate name ∉ importanceNotices member := by
    rcases importanceNotices_cases member with hnone | ⟨line, hline⟩
    · simp [hnone]
    · simp [hline]
  have hmem : .duplicate name ∈ (addMember config index member).notices := by simp [h]
  have addition := addMember_addition config index member
  generalize addMember config index member = outcome at addition h hmem
  cases addition with
  | unnamed hname => simp [Outcome.fail] at hmem
  | @added descriptor entry hname hread =>
      rcases append_eq_append_cons h with ⟨rest, rfl, hrest⟩ | ⟨rest, hrest⟩
      · split at hrest
        · next hcontains =>
            cases rest with
            | nil =>
                obtain ⟨⟨⟩, -⟩ := List.cons.inj hrest
                exact ⟨List.append_nil _, entry, entryOf?_eq_some hname hread,
                  (Entry.read_ok hread).2, (index.mem_keys_iff _).mpr hcontains⟩
            | cons other more => simp at hrest
        · simp at hrest
      · exact absurd (by simp [hrest]) hnot
  | skipped hname hread hmalformed hstrict => simp [hnot] at hmem
  | unreadable hname hread hfatal => exact absurd hmem hnot

theorem addMember_of_entryOf?_eq_none {config : Config} {index next : Index}
    {member : Xml.Element} (hnone : entryOf? config member = none)
    (h : (addMember config index member).result = .ok next) :
    ∃ descriptor error, memberDescriptor member = .ok descriptor ∧
      addMember config index member =
        ⟨importanceNotices member ++ [.memberSkipped descriptor.name error], .ok index⟩ := by
  have addition := addMember_addition config index member
  generalize addMember config index member = outcome at addition h ⊢
  cases addition with
  | unnamed hname => cases h
  | added hname hread => simp [entryOf?_eq_some hname hread] at hnone
  | skipped hname hread hmalformed hstrict => exact ⟨_, _, hname, rfl⟩
  | unreadable hname hread hfatal => cases h

theorem addMembers_append (config : Config) (index : Index) (first second : List Xml.Element) :
    addMembers config index (first ++ second) =
      (addMembers config index first).bind (addMembers config · second) := by
  induction first generalizing index with
  | nil => rfl
  | cons member rest ih =>
      rw [List.cons_append, addMembers, addMembers, Outcome.bind_assoc]
      congr 1
      funext next
      exact ih next

theorem notices_build {config : Config} {root : Xml.Element} {index : Index}
    (h : (build config root).result = .ok index) :
    (build config root).notices =
      (addMembers config Table.empty (membersOf root)).notices ++ [.loaded index.size] := by
  have hadded := addMembers_of_build h
  rw [build] at h ⊢
  split at h
  · cases h
  · next htag =>
      rw [if_neg htag]
      rw [membersOf] at hadded ⊢
      cases hmembers : root.find? "members" with
      | none =>
          rw [hmembers] at h
          cases h
      | some members =>
          rw [hmembers] at hadded
          simp only [ofMembers, Outcome.bind, hadded, Outcome.after]

theorem level_of_addMember {config : Config} {index : Index} {member : Xml.Element}
    {notice : Notice} (h : notice ∈ (addMember config index member).notices) :
    notice.level ≠ .info ∧
      (notice.level = .warning → config.strict = false ∧ notice.isSkip = true) := by
  have hlight : ∀ light ∈ importanceNotices member, light.level = .debug := by
    rcases importanceNotices_cases member with hnone | ⟨line, hline⟩
    · simp [hnone]
    · simp [hline, Notice.level]
  have hdebug : ∀ {notice : Notice}, notice.level = .debug → notice.level ≠ .info ∧
      (notice.level = .warning → config.strict = false ∧ notice.isSkip = true) := by
    intro notice hlevel
    simp [hlevel]
  have addition := addMember_addition config index member
  generalize addMember config index member = outcome at addition h
  cases addition with
  | unnamed hname => simp [Outcome.fail] at h
  | added hname hread =>
      rcases List.mem_append.mp h with himportance | hduplicate
      · exact hdebug (hlight notice himportance)
      · split at hduplicate
        · rw [List.mem_singleton.mp hduplicate]
          exact hdebug rfl
        · cases hduplicate
  | skipped hname hread hmalformed hstrict =>
      rcases List.mem_append.mp h with himportance | hskip
      · exact hdebug (hlight notice himportance)
      · rw [List.mem_singleton.mp hskip]
        exact ⟨by simp [Notice.level], fun _ => ⟨hstrict, rfl⟩⟩
  | unreadable hname hread hfatal => exact hdebug (hlight notice h)

theorem level_of_addMembers {config : Config} {index : Index} {members : List Xml.Element}
    {notice : Notice} (h : notice ∈ (addMembers config index members).notices) :
    notice.level ≠ .info ∧
      (notice.level = .warning → config.strict = false ∧ notice.isSkip = true) := by
  obtain ⟨earlier, later, hsplit⟩ := List.append_of_mem h
  obtain ⟨-, member, -, current, first, last, -, -, hmember, -⟩ := exists_member_of_notice hsplit
  have hmem : notice ∈ (addMember config current member).notices := by
    rw [hmember]
    simp
  exact level_of_addMember hmem

end Index

theorem countP_logOf {config : Config} {root : Xml.Element} {p : LogRecord → Bool}
    {q : Notice → Bool} (h : ∀ notice : Notice, p notice.logged = q notice) :
    (logOf config root).countP p = (Index.build config root).notices.countP q := by
  rw [logOf, List.countP_map]
  congr 1
  funext notice
  exact h notice

/-- The records of members that are left out or replaced make up for the names that these
members do not bring. -/
theorem accounts_of_build {config : Config} {root : Xml.Element} {index : Index}
    (h : (Index.build config root).result = .ok index) : Accounts config root index where
  conserved := by
    have hadded := Index.addMembers_account (Index.addMembers_of_build h)
    rw [countP_logOf Notice.opensWith_skipping, countP_logOf Notice.opensWith_duplicate,
      Index.notices_build h, List.countP_append, List.countP_append]
    have hempty : (Table.empty : Index).size = 0 := rfl
    have hskip : [Notice.loaded index.size].countP Notice.isSkip = 0 := rfl
    have hduplicate : [Notice.loaded index.size].countP Notice.isDuplicate = 0 := rfl
    omega
  loaded := by
    refine ⟨(Index.addMembers config Table.empty (membersOf root)).notices.map Notice.logged,
      ?_, ?_⟩
    · rw [logOf, Index.notices_build h, List.map_append]
      rfl
    · intro entry hmem
      obtain ⟨notice, hnotice, rfl⟩ := List.mem_map.mp hmem
      exact (Index.level_of_addMembers hnotice).1
  lenient := by
    intro entry hmem hlevel
    obtain ⟨notice, hnotice, rfl⟩ := List.mem_map.mp hmem
    rw [Index.notices_build h, List.mem_append] at hnotice
    rw [Notice.opensWith_skipping]
    rcases hnotice with hmember | hloaded
    · exact (Index.level_of_addMembers hmember).2 hlevel
    · rw [List.mem_singleton.mp hloaded] at hlevel
      cases hlevel
  duplicate := by
    intro earlier name later hnotices
    rw [Index.notices_build h] at hnotices
    rcases append_eq_append_cons hnotices with ⟨rest, -, hrest⟩ | ⟨rest, hrest⟩
    · cases rest <;> simp at hrest
    · obtain ⟨before, member, after, current, first, last, hmembers, hbefore, hmember, rfl⟩ :=
        Index.exists_member_of_notice hrest
      obtain ⟨rfl, entry, hentry, hname, hkey⟩ := Index.duplicate_of_addMember hmember
      exact ⟨before, member, after, current, entry, hmembers, hbefore, rfl, hentry, hname, hkey⟩
  skipped := by
    intro before member after hmembers hnone
    have hadded := Index.addMembers_of_build h
    rw [hmembers, Index.addMembers_append, Outcome.bind_result_eq_ok_iff] at hadded
    obtain ⟨current, hbefore, hrest⟩ := hadded
    rw [Index.addMembers, Outcome.bind_result_eq_ok_iff] at hrest
    obtain ⟨next, hmember, -⟩ := hrest
    obtain ⟨descriptor, error, hname, hskipped⟩ :=
      Index.addMember_of_entryOf?_eq_none hnone hmember
    exact ⟨current, descriptor, error, hbefore, hname, hskipped⟩

/-- Members that are left out between two that have the name of one of them. -/
theorem accounts_of_mixed_members :
    let config : Config := { Config.standard with strict := false }
    let root : Xml.Element := ⟨"doc", [], .first, [.element "members" [] ⟨2, 2⟩ [
      .element "member" [("name", "T:N.A")] ⟨3, 4⟩ [],
      .element "member" [("name", "T:N.B")] ⟨4, 4⟩ [.element "importance" [] ⟨4, 27⟩ [.text "x"]],
      .element "member" [("name", "T:N.A")] ⟨5, 4⟩ [
        .element "summary" [] ⟨5, 27⟩ [.element "see" [] ⟨5, 36⟩ []]],
      .element "member" [("name", "T:N.A")] ⟨6, 4⟩ [],
      .element "member" [("name", "T:N.C")] ⟨7, 4⟩ [
        .element "summary" [] ⟨7, 27⟩ [.element "see" [("cref", "N.A")] ⟨7, 36⟩ []]]]]⟩
    ∃ index, (Index.build config root).result = .ok index ∧ Accounts config root index ∧
      index.size = 2 ∧ (logOf config root).map LogRecord.line =
        ["DEBUG xmldoc_md.docindex: ignoring non-numeric importance in line 4",
          "WARNING xmldoc_md.docindex: skipping documentation of N.A: " ++
            "'see' element in line 5 has no 'cref'",
          "DEBUG xmldoc_md.docindex: duplicate documentation for N.A, keeping the last",
          "WARNING xmldoc_md.docindex: skipping documentation of N.C: " ++
            "invalid name descriptor: 'N.A'",
          "INFO xmldoc_md.docindex: loaded documentation for 2 members"] := by
  intro config root
  have hsize : (Index.build config root).result.toOption.map Table.size = some 2 := by
    decide +kernel
  obtain ⟨index, hindex, hsize⟩ := Option.map_eq_some_iff.mp hsize
  have hbuilt := Outcome.toOption_eq_some_iff.mp hindex
  exact ⟨index, hbuilt, accounts_of_build hbuilt, hsize, by decide +kernel⟩

end Documentation

end ApiDocs
