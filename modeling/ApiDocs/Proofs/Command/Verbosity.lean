import ApiDocs.Proofs.Command.Effect
import ApiDocs.Proofs.Documentation.Warning

namespace ApiDocs

/-! Runs that tell all that happens, and runs that tell the grave things only.  They differ in
their logs, and there by the light records alone. -/

namespace LogRecord

def isLight (entry : LogRecord) : Bool :=
  entry.level = .debug || entry.level = .info

theorem atLeast_debug (log : List LogRecord) : atLeast .debug log = log := by
  rw [atLeast, List.filter_eq_self]
  rintro ⟨level, source, message⟩ -
  cases level <;> rfl

theorem atLeast_warning (log : List LogRecord) :
    atLeast .warning log = log.filter fun entry => !entry.isLight := by
  rw [atLeast]
  congr 1
  funext ⟨level, source, message⟩
  cases level <;> rfl

end LogRecord

theorem Outcome.telling_of_isLight {ν ε α : Type} {logged : ν → LogRecord}
    (h : ∀ notice, (logged notice).isLight = true) (outcome : Outcome ν ε α) :
    ((outcome.mapNotices logged).telling fun entry => !entry.isLight) =
      ofExcept outcome.result := by
  apply telling_of_forall_mem
  intro entry hmem
  obtain ⟨notice, -, rfl⟩ := List.mem_map.mp hmem
  simp [h]

namespace Command

namespace Request

variable {tree : FileTree} {directory : Place}

/-- The warnings of a run: what is wrong with the members that it leaves out of its index. -/
def warnings (tree : FileTree) (directory : Place) (request : Request) : List LogRecord :=
  match request.loadConfig tree directory with
  | .error _ => []
  | .ok config =>
      let path := Path.ofPlace (request.documentationPlace directory)
      (Documentation.warnings config (Documentation.membersIn tree directory path)).map
        Documentation.Notice.logged

/-! Each step of a run without its light records. -/

theorem loadIndex_telling_notices (request : Request) (config : Config) :
    ((request.loadIndex tree directory config).telling fun entry => !entry.isLight).notices =
      (Documentation.warnings config (Documentation.membersIn tree directory
        (.ofPlace (request.documentationPlace directory)))).map Documentation.Notice.logged := by
  have hkeep : (fun notice : Documentation.Notice => !notice.logged.isLight) =
      Documentation.Notice.isWarning := by
    funext notice
    cases notice <;> rfl
  rw [loadIndex, Outcome.telling_mapNotices, hkeep, Outcome.telling_mapError,
    ← Documentation.load_telling_notices]
  rfl

theorem loadTypes_telling (request : Request) :
    ((request.loadTypes tree directory).telling fun entry => !entry.isLight) =
      .ofExcept (request.loadTypes tree directory).result := by
  have hlight : ∀ notice : Metadata.Notice, notice.logged.isLight = true := by
    intro notice
    cases notice <;> rfl
  exact Outcome.telling_of_isLight hlight _

theorem page_telling_notices (request : Request) :
    ((request.page tree directory).telling fun entry => !entry.isLight).notices =
      request.warnings tree directory := by
  have hrender : ∀ config index types,
      (⟨(Markdown.renderNotices config index types).map Markdown.Notice.logged,
          .ok (Markdown.render config index types)⟩ : Outcome LogRecord Failure String).telling
        (fun entry => !entry.isLight) = .ofExcept (.ok (Markdown.render config index types)) := by
    intro config index types
    exact Outcome.telling_of_isLight (fun notice : Markdown.Notice => rfl)
      ⟨Markdown.renderNotices config index types, .ok (Markdown.render config index types)⟩
  simp only [page, Outcome.telling_bind, Outcome.telling_ofExcept, loadTypes_telling, hrender,
    Outcome.ofExcept_bind_ofExcept, warnings]
  cases request.loadConfig tree directory with
  | error failure => rfl
  | ok config =>
      rw [Outcome.ofExcept_ok_bind, Outcome.bind_ofExcept_notices, loadIndex_telling_notices]

theorem carryOut_notices (request : Request) :
    (request.carryOut tree directory).2.notices = (request.page tree directory).notices := by
  rw [carryOut]
  rcases request.page tree directory with ⟨log, failure | text⟩
  · rfl
  · rcases hsave : tree.save (request.outputPlace directory) (Text.encodeUtf8 text) with
      ⟨after, _ | ⟨place, fault⟩⟩ <;> simp only [hsave]

theorem reportOf_eq (request : Request) (log : List LogRecord) (result : Except Failure Unit) :
    request.reportOf log result = { request.reportOf [] result with log := log } := by
  rcases result with failure | ⟨⟩
  · simp only [reportOf]
    cases failure.isReported <;> rfl
  · rfl

theorem run_of_verbose {request : Request} (hnull : request.hasNull = false) (verbose : Bool) :
    { request with verbose := verbose }.run tree directory =
      ((request.carryOut tree directory).1,
        { request.reportOf [] (request.carryOut tree directory).2.result with
          log := LogRecord.atLeast (if verbose then .debug else .warning)
            (request.carryOut tree directory).2.notices }) := by
  have hsame : { request with verbose := verbose }.hasNull = false := hnull
  rw [run_eq_reportOf hsame, reportOf_eq]
  rfl

/-- What a run that tells all has in common with one that does not. -/
structure Undisturbed (request : Request) (tree : FileTree) (directory : Place)
    (loud quiet : FileTree × Report) : Prop where
  files : quiet.1 = loud.1
  ending : quiet.2.ending = loud.2.ending
  output : quiet.2.outputText = loud.2.outputText
  errors : quiet.2.errors = loud.2.errors
  log : quiet.2.log = loud.2.log.filter fun entry => !entry.isLight
  errorText : quiet.2.errorText = Report.ofLines
    ((loud.2.log.filter fun entry => !entry.isLight).map LogRecord.line ++ loud.2.errors)
  complete : request.hasNull = false →
    loud.2.log = (request.carryOut tree directory).2.notices
  warnings : request.hasNull = false → quiet.2.log = request.warnings tree directory

/-- How much a run tells has no influence on what it does. -/
theorem undisturbed (request : Request) (tree : FileTree) (directory : Place) :
    request.Undisturbed tree directory
      ({ request with verbose := true }.run tree directory)
      ({ request with verbose := false }.run tree directory) := by
  cases hnull : request.hasNull with
  | true =>
      have hrun : ∀ verbose, { request with verbose := verbose }.run tree directory =
          (tree, ⟨[], [], [], .error .nullInPath⟩) := fun _ => if_pos hnull
      rw [hrun, hrun]
      exact ⟨rfl, rfl, rfl, rfl, rfl, rfl, by simp [hnull], by simp [hnull]⟩
  | false =>
      have hwarnings : ((request.carryOut tree directory).2.notices.filter
          fun entry => !entry.isLight) = request.warnings tree directory := by
        rw [carryOut_notices]
        exact request.page_telling_notices
      rw [run_of_verbose hnull, run_of_verbose hnull, if_pos rfl, if_neg Bool.false_ne_true,
        LogRecord.atLeast_debug, LogRecord.atLeast_warning]
      exact ⟨rfl, rfl, rfl, rfl, rfl, rfl, fun _ => rfl, fun _ => hwarnings⟩

/-- A member that is left out is all that a run mentions unless it tells all. -/
theorem undisturbed_of_skipped_member :
    let tree : FileTree := ⟨[
      (["work"], .directory),
      (["work", "lenient.toml"], .file (Text.encodeUtf8 "[xmldoc-md]\nstrict = false")),
      (["work", "doc.xml"], .file (Text.encodeUtf8
        "<doc><members><member name='T:A'><summary><see/></summary></member></members></doc>")),
      (["work", "types.yml"], .file (Text.encodeUtf8 "types: [\x7bname: A\x7d]"))]⟩
    let request : Request := ⟨.file "lenient.toml", true, "doc.xml", "types.yml", "all.md"⟩
    let loud := { request with verbose := true }.run tree ["work"]
    let quiet := { request with verbose := false }.run tree ["work"]
    let warning : LogRecord := ⟨.warning, "xmldoc_md.docindex",
      "skipping documentation of A: 'see' element in line 1 has no 'cref'"⟩
    let light : List LogRecord := [
      ⟨.info, "xmldoc_md.docindex", "loaded documentation for 0 members"⟩,
      ⟨.info, "xmldoc_md.metadata", "loaded metadata for 1 exported types"⟩,
      ⟨.debug, "xmldoc_md.codegen_markdown", "skipping undocumented type A"⟩]
    request.Undisturbed tree ["work"] loud quiet ∧ loud.2.log = warning :: light ∧
      quiet.2.log = [warning] := by
  intro tree request loud quiet warning light
  have hrun := request.undisturbed tree ["work"]
  have hloud : loud.2.log = warning :: light := by decide +kernel
  have hquiet : quiet.2.log = (warning :: light).filter fun entry => !entry.isLight :=
    hloud ▸ hrun.log
  exact ⟨hrun, hloud, hquiet⟩

end Request

end Command

end ApiDocs
