import ApiDocs.Command.Run
import ApiDocs.Proofs.FileTree
import ApiDocs.Proofs.Text.Utf8

namespace ApiDocs.Command

/-! What runs do to files.  A run that comes to an end writes one file; any other run leaves
the files as they were. -/

/-- A tree that is well-formed, and a directory in it that runs start from. -/
structure Ready (tree : FileTree) (directory : Place) : Prop where
  wellFormed : tree.WellFormed
  here : tree.node? directory = some .directory

instance (tree : FileTree) (directory : Place) : Decidable (Ready tree directory) :=
  decidable_of_iff (tree.WellFormed ∧ tree.node? directory = some .directory)
    ⟨fun h => ⟨h.1, h.2⟩, fun h => ⟨h.wellFormed, h.here⟩⟩

variable {tree : FileTree} {directory : Place}

namespace Request

structure Loads (request : Request) (tree : FileTree) (directory : Place) (config : Config)
    (index : Documentation.Index) (types : List Metadata.ExportedType) : Prop where
  settings : request.loadConfig tree directory = .ok config
  documentation : (request.loadIndex tree directory config).result = .ok index
  metadata : (request.loadTypes tree directory).result = .ok types

theorem page_result_eq_ok_iff {request : Request} {text : String} :
    (request.page tree directory).result = .ok text ↔
      ∃ config index types, request.Loads tree directory config index types ∧
        text = Markdown.render config index types := by
  simp only [page, Outcome.bind_result_eq_ok_iff, Outcome.ofExcept, Except.ok.injEq]
  constructor
  · rintro ⟨config, hconfig, index, hindex, types, htypes, rfl⟩
    exact ⟨config, index, types, ⟨hconfig, hindex, htypes⟩, rfl⟩
  · rintro ⟨config, index, types, ⟨hconfig, hindex, htypes⟩, rfl⟩
    exact ⟨config, hconfig, index, hindex, types, htypes, rfl⟩

theorem not_mem_outputPlace (h : Ready tree directory) (request : Request) :
    ".." ∉ request.outputPlace directory :=
  Path.not_mem_resolve (h.wellFormed.forward directory (by rw [h.here]; rfl)) _

/-- What a request has done to a tree: its page stands in the output file. -/
def Done (request : Request) (before after : FileTree) (directory : Place) : Prop :=
  ∃ config index types, request.Loads before directory config index types ∧
    FileTree.Saved before after (request.outputPlace directory)
      (Markdown.render config index types).toUTF8.data.toList

theorem carryOut_cases (h : Ready tree directory) (request : Request) :
    (∃ after log, request.carryOut tree directory = (after, ⟨log, .ok ()⟩) ∧
        after.WellFormed ∧ request.Done tree after directory) ∨
      ∃ log failure, request.carryOut tree directory = (tree, ⟨log, .error failure⟩) := by
  rcases hpage : request.page tree directory with ⟨log, failure | text⟩
  · exact .inr ⟨log, failure, by simp only [carryOut, hpage]⟩
  · obtain ⟨config, index, types, hloads, rfl⟩ :=
      page_result_eq_ok_iff.mp (congrArg Outcome.result hpage)
    have hforward := request.not_mem_outputPlace h
    -- The file is the last thing that a run touches, so nothing fails once it is saved.
    rcases FileTree.save_cases h.wellFormed hforward
        (Text.encodeUtf8 (Markdown.render config index types)) with
      ⟨after, hsave, hwell, hsaved⟩ | ⟨⟨⟨place, fault⟩, hsave⟩, -⟩
    · refine .inl ⟨after, log, by simp only [carryOut, hpage, hsave], hwell, ?_⟩
      rw [Text.encodeUtf8_eq_toUTF8] at hsaved
      exact ⟨config, index, types, hloads, hsaved⟩
    · exact .inr ⟨log, _, by simp only [carryOut, hpage, hsave]; rfl⟩

def startLine (request : Request) : String :=
  s!"Writing documentation to {request.output}"

def reportOf (request : Request) (log : List LogRecord) : Except Failure Unit → Report
  | .ok () => ⟨[request.startLine, "Done."], log, [], .ok 0⟩
  | .error failure =>
      if failure.isReported then
        ⟨[request.startLine], log, [s!"Error: {failure.message}"], .ok 1⟩
      else
        ⟨[request.startLine], log, [], .error failure⟩

theorem run_eq_reportOf {request : Request} (hnull : request.hasNull = false)
    (tree : FileTree) (directory : Place) :
    request.run tree directory =
      ((request.carryOut tree directory).1,
        request.reportOf
          (LogRecord.atLeast request.level (request.carryOut tree directory).2.notices)
          (request.carryOut tree directory).2.result) := by
  rw [Request.run, hnull]
  rcases request.carryOut tree directory with ⟨after, log, failure | ⟨⟩⟩
  · simp only [reportOf]
    cases failure.isReported <;> rfl
  · rfl

theorem ending_reportOf_error_ne (request : Request) (log : List LogRecord)
    (failure : Failure) : (request.reportOf log (.error failure)).ending ≠ .ok 0 := by
  rw [reportOf]
  split <;> simp

theorem run_cases (h : Ready tree directory) (request : Request) :
    ((request.run tree directory).2.ending = .ok 0 ∧
        (request.run tree directory).1.WellFormed ∧
        request.Done tree (request.run tree directory).1 directory) ∨
      (request.run tree directory).2.ending ≠ .ok 0 ∧
        (request.run tree directory).1 = tree := by
  cases hnull : request.hasNull with
  | true =>
      rw [Request.run, if_pos hnull]
      exact .inr ⟨by simp, rfl⟩
  | false =>
      rw [run_eq_reportOf hnull]
      rcases carryOut_cases h request with
        ⟨after, log, hdone, hwell, hsaved⟩ | ⟨log, failure, hfailed⟩
      · rw [hdone]
        exact .inl ⟨rfl, hwell, hsaved⟩
      · rw [hfailed]
        exact .inr ⟨request.ending_reportOf_error_ne _ failure, rfl⟩

end Request

/-- The request that a command line makes, if it names three paths and nothing is wrong
with it. -/
def request? (words : List String) : Option Request :=
  if asksForHelp words then
    none
  else
    (Arguments.ofWords words).toOption.bind (·.request.toOption)

theorem run_of_request? {words : List String} {request : Request}
    (h : request? words = some request) (tree : FileTree) (directory : Place) :
    run tree directory words = request.run tree directory := by
  rw [request?] at h
  rw [run]
  split at h
  · cases h
  · next hhelp =>
      rw [if_neg hhelp]
      cases harguments : Arguments.ofWords words with
      | error error => simp [harguments, Except.toOption] at h
      | ok arguments =>
          cases hrequest : arguments.request with
          | error error => simp [harguments, hrequest, Except.toOption] at h
          | ok found =>
              simp only [harguments, hrequest, Except.toOption, Option.bind_some,
                Option.some.injEq] at h
              simp only [hrequest, h]

theorem run_of_request?_eq_none {words : List String} (h : request? words = none)
    (tree : FileTree) (directory : Place) :
    (run tree directory words).1 = tree ∧
      ((run tree directory words).2.ending = .ok 0 ↔ asksForHelp words = true) := by
  rw [request?] at h
  rw [run]
  split at h
  · next hhelp =>
      rw [if_pos hhelp]
      exact ⟨rfl, iff_of_true rfl hhelp⟩
  · next hhelp =>
      rw [if_neg hhelp]
      cases harguments : Arguments.ofWords words with
      | error error => exact ⟨rfl, iff_of_false (by simp [Report.ofArgumentError]) hhelp⟩
      | ok arguments =>
          cases hrequest : arguments.request with
          | error error =>
              simp only [hrequest]
              exact ⟨trivial, iff_of_false (by simp [Report.ofHelp]) hhelp⟩
          | ok found => simp [harguments, hrequest, Except.toOption] at h

theorem Ready.run (h : Ready tree directory) (words : List String) :
    Ready (run tree directory words).1 directory := by
  cases hrequest : request? words with
  | none => rwa [(run_of_request?_eq_none hrequest tree directory).1]
  | some request =>
      rw [run_of_request? hrequest]
      rcases request.run_cases h with ⟨-, hwell, config, index, types, -, hsaved⟩ | ⟨-, hsame⟩
      · exact ⟨hwell, hsaved.directory h.here⟩
      · rwa [hsame]

/-- Only a run that comes to an end changes files, and what it changes is its output file and
the missing directories above it. -/
theorem run_effect (h : Ready tree directory) (words : List String) :
    ((run tree directory words).2.ending ≠ .ok 0 → (run tree directory words).1 = tree) ∧
      (asksForHelp words = true → (run tree directory words).1 = tree) ∧
      ((run tree directory words).2.ending = .ok 0 → asksForHelp words = false →
        ∃ request config index types, request? words = some request ∧
          request.Loads tree directory config index types ∧
            FileTree.Saved tree (run tree directory words).1 (request.outputPlace directory)
              (Markdown.render config index types).toUTF8.data.toList) := by
  cases hrequest : request? words with
  | none =>
      obtain ⟨hsame, hending⟩ := run_of_request?_eq_none hrequest tree directory
      refine ⟨fun _ => hsame, fun _ => hsame, ?_⟩
      intro hdone hhelp
      rw [hending.mp hdone] at hhelp
      cases hhelp
  | some request =>
      rw [run_of_request? hrequest]
      have hnohelp : asksForHelp words ≠ true := by
        intro hhelp
        simp [request?, hhelp] at hrequest
      rcases request.run_cases h with
        ⟨hending, -, config, index, types, hloads, hsaved⟩ | ⟨hending, hsame⟩
      · exact ⟨fun hfailed => absurd hending hfailed, fun hhelp => absurd hhelp hnohelp,
          fun _ _ => ⟨request, config, index, types, rfl, hloads, hsaved⟩⟩
      · exact ⟨fun _ => hsame, fun _ => hsame, fun hdone => absurd hdone hending⟩

/-- A page in a directory that is new. -/
theorem run_effect_of_new_directory :
    let tree : FileTree := ⟨[
      (["work"], .directory),
      (["work", "doc.xml"], .file (Text.encodeUtf8 "<doc><members/></doc>")),
      (["work", "types.yml"], .file (Text.encodeUtf8 "types: []"))]⟩
    let words := ["doc.xml", "types.yml", "pages/all.md"]
    Ready tree ["work"] ∧ (run tree ["work"] words).2.ending = .ok 0 ∧
      asksForHelp words = false ∧
      ∃ request config index types, request? words = some request ∧
        request.Loads tree ["work"] config index types ∧
          FileTree.Saved tree (run tree ["work"] words).1 (request.outputPlace ["work"])
            (Markdown.render config index types).toUTF8.data.toList := by
  intro tree words
  have hready : Ready tree ["work"] := by decide
  have hending : (run tree ["work"] words).2.ending.toOption = some 0 := by decide +kernel
  have hdone := Outcome.toOption_eq_some_iff.mp hending
  have hhelp : asksForHelp words = false := by decide
  exact ⟨hready, hdone, hhelp, (run_effect hready words).2.2 hdone hhelp⟩

end ApiDocs.Command
