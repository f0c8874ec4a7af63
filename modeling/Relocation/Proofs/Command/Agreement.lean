import Relocation.Proofs.Command.Gathering
import Relocation.Proofs.Disk.Writing
import Relocation.Proofs.Report.Status

/-!
# Exit code, reports and verdict

A run that goes well has one comparison, and whatever the run gives out depends on the options for
its reports only in form: the exit code is that of the comparison, and every report says its
verdict.

* `Command.run_of_succeeds` — what a run without trouble leaves,
* `Command.Says` — every report of a run says a verdict,
* `Command.exists_exitCode_of_reaches` — **exit code, reports and verdict agree**, whatever the form
  of the reports.
-/

namespace Relocation.Command

open Relocation.Task

variable {session : Session} {refusal : Option String} {arguments : List String} {o : Options}
  {c : Comparison} {d : Disk} {j : Journal World}

/-! ## Gathering -/

/-- Gathering that goes well ends with the comparison of all texts. -/
theorem outcome_gather_eq_ok_iff :
    outcome (gather o) j = .ok c ↔ Reaches j.state.disk o c := by
  simp only [gather, outcome_bind_eq_ok_iff, outcome_selectFiles_eq_ok_iff,
    outcome_pathOf_eq_ok_iff, outcome_current, left_current, Except.ok.injEq, exists_eq_left',
    outcome_rescue_eq_ok_iff, outcome_endVerification_ne_ok, and_false, exists_false, or_false,
    outcome_compared_eq_ok_iff, disk_left (keeps_selectFiles o), disk_left (keeps_pathOf _)]
  constructor
  · rintro ⟨files, hfiles, _, ⟨before, hbefore, rfl⟩, _, ⟨after, hafter, rfl⟩, hc⟩
    exact ⟨files, before, after, hfiles, hbefore, hafter, hc⟩
  · rintro ⟨files, before, after, hfiles, hbefore, hafter, hc⟩
    exact ⟨files, hfiles, _, ⟨before, hbefore, rfl⟩, _, ⟨after, hafter, rfl⟩, hc⟩

/-! ## Delivering -/

/-- What goes to standard output. -/
def printedReport (o : Options) (c : Comparison) : String :=
  match o.format, requested o.output with
  | .json, some _ => ""
  | .json, none => c.streamDocument
  | _, _ => (Page.ofComparison c).coloured consoleWidth

/-- The disk after the HTML report, if one is asked for. -/
def paged (d : Disk) (o : Options) (c : Comparison) : Disk :=
  match requested o.html with
  | some output => (d.writeReport (.ofString output) (Utf8.encode (htmlReport c).toList)).1
  | none => d

/-- All reports are given out. -/
def Delivers (d : Disk) (refusal : Option String) (o : Options) (c : Comparison) : Prop :=
  Presents d refusal o c ∧
    ∀ output, requested o.html = some output → pageOutcome d o c output = .ok ()

theorem state_left_print (h : j.state.refusal = none) (text : String) :
    (left (print text) j).state = { j.state with stdout := j.state.stdout ++ text } := by
  have hupdate : left (print text) j =
      left (Task.update fun w => { w with stdout := w.stdout ++ text } : Task World Failure Unit)
        j := by
    simp only [print, left_bind, outcome_current, left_current, h]
  rw [hupdate]
  rfl

theorem state_left_rescue_writeFile {ε : Type} {handle : Fault → Task World ε Unit} {p : Path}
    {text : String} (h : (j.state.disk.writeReport p (Utf8.encode text.toList)).2 = .ok ())
    (r : Record) :
    (left ((writeFile p text).rescue handle >>= fun _ => Task.log r) j).state =
      { j.state with disk := (j.state.disk.writeReport p (Utf8.encode text.toList)).1 } := by
  have houtcome := (outcome_writeFile p text j).trans h
  rw [left_bind, outcome_rescue, left_rescue, houtcome]
  dsimp only
  exact state_left_writeFile p text j

theorem state_left_present (h : Presents j.state.disk j.state.refusal o c) :
    (left (present o c) j).state =
      { j.state with
        disk := (reported j.state.disk o c).1
        stdout := j.state.stdout ++ printedReport o c } := by
  obtain ⟨hreported, hprints⟩ := h
  cases hfile : reportFile? o with
  | some output =>
    obtain ⟨hformat, houtput⟩ := format_of_reportFile? hfile
    simp only [reported, hfile] at hreported ⊢
    simp only [present, printedReport, hformat, houtput]
    rw [state_left_rescue_writeFile hreported, String.append_empty]
  | none =>
    have hprint : present o c = print (printedReport o c) := by
      cases hformat : o.format with
      | json =>
        have houtput : requested o.output = none := by simpa [reportFile?, hformat] using hfile
        simp only [present, printedReport, hformat, houtput]
      | table => simp only [present, printedReport, hformat]
      | unnamed => simp only [present, printedReport, hformat]
    rw [hprint, state_left_print (hprints hfile)]
    simp only [reported, hfile]

theorem state_left_writeHtml {output : String}
    (h : (j.state.disk.writeReport (.ofString output)
      (Utf8.encode (htmlReport c).toList)).2 = .ok ()) :
    (left (writeHtml output c) j).state =
      { j.state with
        disk := (j.state.disk.writeReport (.ofString output)
          (Utf8.encode (htmlReport c).toList)).1 } := by
  rw [writeHtml]
  exact state_left_rescue_writeFile h _

theorem state_left_finish
    (h : ∀ output, requested o.html = some output →
      (j.state.disk.writeReport (.ofString output)
        (Utf8.encode (htmlReport c).toList)).2 = .ok ()) :
    (left (finish o c) j).state = { j.state with disk := paged j.state.disk o c } := by
  unfold finish paged
  cases hhtml : requested o.html with
  | some output =>
    rw [left_bind, (outcome_writeHtml_eq_ok_iff (x := ())).mpr (h output hhtml)]
    dsimp only
    rw [left_pure, state_left_writeHtml (h output hhtml)]
  | none => rfl

/-- Reports that can be given out are, and nothing else changes. -/
theorem deliver_of_delivers (h : Delivers j.state.disk j.state.refusal o c) :
    outcome (deliver o c) j = .ok (codeOf c) ∧
      (left (deliver o c) j).state =
        { j.state with
          disk := paged (reported j.state.disk o c).1 o c
          stdout := j.state.stdout ++ printedReport o c } := by
  obtain ⟨hpresents, hpages⟩ := h
  have hpresent : outcome (present o c) j = .ok () := outcome_present_eq_ok_iff.mpr hpresents
  have hstate := state_left_present hpresents
  have hfirst : outcome ((present o c).rescue (endVerification o)) j = .ok () := by
    rw [outcome_rescue, hpresent]
  have hleft : left ((present o c).rescue (endVerification o)) j = left (present o c) j := by
    rw [left_rescue, hpresent]
  refine ⟨outcome_bind_eq_ok_iff.mpr ⟨(), hfirst, ?_⟩, ?_⟩
  · rw [hleft, outcome_finish_eq_ok_iff (d := j.state.disk) (by rw [hstate])]
    exact ⟨hpages, rfl⟩
  · rw [deliver, left_bind, hfirst, hleft]
    dsimp only
    rw [state_left_finish, hstate]
    intro output hhtml
    rw [hstate]
    exact hpages output hhtml

/-! ## Runs without trouble -/

/-- A run without trouble, all but its log. -/
theorem exists_run_eq_of_succeeds (hparse : Options.parse arguments = .ok o)
    (hc : Reaches session.disk o c) (h : Delivers session.disk refusal o c) :
    ∃ records, run session refusal arguments =
      ⟨.ok (codeOf c), printedReport o c, "", "", "", records,
        { session with disk := paged (reported session.disk o c).1 o c }⟩ := by
  have hgather : outcome (gather o) (session.journal refusal) = .ok c :=
    outcome_gather_eq_ok_iff.mpr hc
  have hobserves := observes_gather o _ c hgather
  obtain ⟨houtcome, hstate⟩ := deliver_of_delivers (j := left (gather o) (session.journal refusal))
    (by rwa [hobserves])
  have hrun : (gather o >>= deliver o).start { disk := session.disk, refusal } =
      (.ok (codeOf c), left (deliver o c) (left (gather o) (session.journal refusal))) := by
    refine Prod.ext ?_ ?_
    · exact outcome_bind_eq_ok_iff.mpr ⟨c, hgather, houtcome⟩
    · have hleft := left_bind (gather o) (deliver o) (session.journal refusal)
      rw [hgather] at hleft
      exact hleft
  rw [hobserves] at hstate
  rw [run_eq_runOf hparse]
  simp only [runOf, hrun, hstate]
  simp only [Session.journal, String.empty_append, outcomeOf]
  exact ⟨_, rfl⟩

/-- **What a run without trouble leaves**: the exit code of the comparison, the report that goes to
standard output, and the files of the other reports. -/
theorem run_of_succeeds (hparse : Options.parse arguments = .ok o)
    (hc : Reaches session.disk o c) (h : Delivers session.disk refusal o c) :
    (run session refusal arguments).outcome = .ok (codeOf c) ∧
      (run session refusal arguments).stdout = printedReport o c ∧
      (run session refusal arguments).session.disk = paged (reported session.disk o c).1 o c := by
  obtain ⟨records, hrun⟩ := exists_run_eq_of_succeeds hparse hc h
  rw [hrun]
  exact ⟨rfl, rfl, rfl⟩

/-! ## Verdicts -/

/-- The file that a path leads to says a status, if it is read in a given way. -/
def Holds (d : Disk) (output : String) (read : String → Option String) (status : String) : Prop :=
  ∃ text, d.readFile (.ofString output) = .ok (Utf8.encode text.toList) ∧ read text = some status

/-- **Every report that a run gives out says a status.** -/
structure Says (r : Run) (o : Options) (status : String) : Prop where
  /-- a table on standard output -/
  table : o.format ≠ .json → Page.status? r.stdout = some status
  /-- a JSON document there -/
  stream : o.format = .json → requested o.output = none → Json.status? r.stdout = some status
  /-- a JSON document in a file, unless the HTML report has taken its place -/
  file : ∀ output, reportFile? o = some output →
    Holds r.session.disk output Json.status? status ∨ ∃ page, requested o.html = some page ∧
      r.session.disk.locate (.ofString output) = r.session.disk.locate (.ofString page)
  /-- an HTML page in a file -/
  page : ∀ output, requested o.html = some output → Holds r.session.disk output Html.status? status

theorem status?_printedReport_of_table (h : o.format ≠ .json) :
    Page.status? (printedReport o c) = some c.status := by
  have hprinted : printedReport o c = (Page.ofComparison c).coloured consoleWidth := by
    cases hformat : o.format with
    | json => exact absurd hformat h
    | table => simp only [printedReport, hformat]
    | unnamed => simp only [printedReport, hformat]
  rw [hprinted, c.status?_coloured]

theorem status?_printedReport_of_stream (hformat : o.format = .json)
    (houtput : requested o.output = none) :
    Json.status? (printedReport o c) = some c.status := by
  have hprinted : printedReport o c = c.streamDocument := by
    simp only [printedReport, hformat, houtput]
  rw [hprinted, c.status?_streamDocument]

theorem paged_eq {output : String} (hhtml : requested o.html = some output)
    (h : pageOutcome d o c output = .ok ()) :
    (reported d o c).1.writeReport (.ofString output) (Utf8.encode (htmlReport c).toList) =
      (paged (reported d o c).1 o c, .ok ()) := by
  simp only [paged, hhtml]
  exact Prod.ext rfl h

/-- The HTML report is in its file at the end. -/
theorem holds_page (h : Delivers d refusal o c) {output : String}
    (hhtml : requested o.html = some output) :
    Holds (paged (reported d o c).1 o c) output Html.status? c.status :=
  ⟨htmlReport c, Disk.readFile_writeReport_self (paged_eq hhtml (h.2 output hhtml)),
    c.status?_htmlReport⟩

/-- The JSON report is in its file at the end, unless the HTML report goes to the same place. -/
theorem holds_document (h : Delivers d refusal o c) {output : String}
    (hfile : reportFile? o = some output) :
    Holds (paged (reported d o c).1 o c) output Json.status? c.status ∨
      ∃ page, requested o.html = some page ∧
        (paged (reported d o c).1 o c).locate (.ofString output) =
          (paged (reported d o c).1 o c).locate (.ofString page) := by
  have hwrite : d.writeReport (.ofString output) (Utf8.encode c.document.toList) =
      ((reported d o c).1, .ok ()) := by
    have hok := h.1.1
    simp only [reported, hfile] at hok ⊢
    exact Prod.ext rfl hok
  have hread := Disk.readFile_writeReport_self hwrite
  cases hhtml : requested o.html with
  | none =>
    have hpaged : paged (reported d o c).1 o c = (reported d o c).1 := by
      simp only [paged, hhtml]
    rw [hpaged]
    exact .inl ⟨c.document, hread, c.status?_document⟩
  | some page =>
    rcases Disk.readFile_writeReport (paged_eq hhtml (h.2 page hhtml)) hread with hread | hplace
    · exact .inl ⟨c.document, hread, c.status?_document⟩
    · exact .inr ⟨page, rfl, hplace⟩

theorem says_of_succeeds (hparse : Options.parse arguments = .ok o)
    (hc : Reaches session.disk o c) (h : Delivers session.disk refusal o c) :
    Says (run session refusal arguments) o c.status := by
  obtain ⟨-, hstdout, hdisk⟩ := run_of_succeeds hparse hc h
  exact {
    table := fun hformat => by rw [hstdout, status?_printedReport_of_table hformat]
    stream := fun hformat houtput => by
      rw [hstdout, status?_printedReport_of_stream hformat houtput]
    file := fun output hfile => by
      rw [hdisk]
      exact holds_document h hfile
    page := fun output hhtml => by
      rw [hdisk]
      exact holds_page h hhtml }

theorem toNat_codeOf (c : Comparison) : (codeOf c).toNat = if c.errors = [] then 0 else 1 := by
  unfold codeOf Comparison.passed
  cases c.errors with
  | nil => rfl
  | cons e rest => rfl

theorem toNat_codeOf_eq_zero_iff (c : Comparison) :
    (codeOf c).toNat = 0 ↔ (Payload.ofComparison c).status = "PASSED" := by
  change (codeOf c).toNat = 0 ↔ c.status = "PASSED"
  unfold codeOf Comparison.status
  cases c.passed with
  | true => exact ⟨fun _ => rfl, fun _ => rfl⟩
  | false => exact ⟨nofun, fun h => absurd h (by decide)⟩

/-- **Exit code, reports and verdict agree.** Let there be a new file and let all inputs be texts,
with their comparison. Then there is one exit code, which is zero if the comparison has no errors
and one if it has. A run with these inputs ends with that code whatever is asked of its reports, as
long as they can be given out. The code is zero exactly when the status of the content says that the
refactor has passed, and every report that is given out says that status. -/
theorem exists_exitCode_of_reaches {inputs : Options} (hc : Reaches d inputs c) :
    ∃ code : ExitCode, code.toNat = (if c.errors = [] then 0 else 1) ∧
      (code.toNat = 0 ↔ (Payload.ofComparison c).status = "PASSED") ∧
      ∀ (session : Session) (refusal : Option String) (arguments : List String) (format : Format)
        (output html : Value) (verbose : Bool), session.disk = d →
        Options.parse arguments = .ok { inputs with format, output, html, verbose } →
        Delivers d refusal { inputs with format, output, html, verbose } c →
        (run session refusal arguments).outcome = .ok code ∧
          Says (run session refusal arguments) { inputs with format, output, html, verbose }
            (Payload.ofComparison c).status := by
  refine ⟨codeOf c, toNat_codeOf c, toNat_codeOf_eq_zero_iff c, ?_⟩
  rintro session refusal arguments format output html verbose rfl hparse hdelivers
  have hreaches : Reaches session.disk { inputs with format, output, html, verbose } c := hc
  exact ⟨(run_of_succeeds hparse hreaches hdelivers).1, says_of_succeeds hparse hreaches hdelivers⟩

/-! ## A lost function -/

/-- The text of a file before a refactor. -/
def twoFunctions : String := "def f():\ndef g():\n"

/-- The text of the new file, which holds one of the functions. -/
def oneFunction : String := "def g():\n"

/-- A disk with both texts and a text after the refactor that has no function any more. -/
def diskOfLostFunction : Disk :=
  ⟨[], [(["a.py"], .file (Utf8.encode twoFunctions.toList)), (["b.py"], .file []),
    (["n.py"], .file (Utf8.encode oneFunction.toList))], []⟩

/-- Arguments for it that ask for a table. -/
def lostFunctionArguments : List String :=
  ["--original", "a.py", "--refactored", "b.py", "--new-file", "n.py"]

/-- The same, read. -/
def lostFunctionOptions : Options :=
  { before := some "a.py", after := some "b.py", newFiles := [some "n.py"], newDirs := [],
    format := .table, output := none, html := none, verbose := false }

/-- A run on it with more arguments. -/
def lostFunctionRun (more : List String) : Run :=
  run ⟨diskOfLostFunction, .info⟩ none (lostFunctionArguments ++ more)

/-- The comparison of the three texts. -/
def lostFunctionComparison : Comparison :=
  .ofTexts twoFunctions "" [⟨"n.py", oneFunction⟩]

theorem errors_lostFunctionComparison :
    lostFunctionComparison.errors = [Comparison.lostMessage "f"] := by
  decide +kernel

theorem reaches_lostFunctionComparison :
    Reaches diskOfLostFunction lostFunctionOptions lostFunctionComparison := by
  have hbefore : diskOfLostFunction.readText (.ofString "a.py") = .ok twoFunctions := by
    decide +kernel
  have hafter : diskOfLostFunction.readText (.ofString "b.py") = .ok "" := by decide +kernel
  have hnew : diskOfLostFunction.readText (.ofString "n.py") = .ok oneFunction := by
    decide +kernel
  exact ⟨[.ofString "n.py"], "a.py", "b.py", ⟨["n.py"], [], rfl, .nil, rfl, by decide⟩, rfl, rfl,
    twoFunctions, "", [⟨"n.py", oneFunction⟩], hbefore, hafter,
    .cons ⟨oneFunction, hnew, by decide⟩ .nil, rfl⟩

/-- More arguments that ask for reports in files of a directory that is not there. -/
def reportArguments : List String :=
  ["--format", "json", "--output", "out/r.json", "--html", "out/r.html", "--verbose"]

/-- All arguments, read. -/
def reportOptions : Options :=
  { lostFunctionOptions with
    format := .json, output := some "out/r.json", html := some "out/r.html", verbose := true }

/-- The disk with the reports in their files. -/
def diskWithReports (document page : List UInt8) : Disk :=
  { diskOfLostFunction with
    entries := diskOfLostFunction.entries ++ [(["out"], .folder),
      (["out", "r.json"], .file document), (["out", "r.html"], .file page)] }

theorem writeReport_diskOfLostFunction (document page : List UInt8) :
    (diskOfLostFunction.writeReport (.ofString "out/r.json") document).2 = .ok () ∧
      (diskOfLostFunction.writeReport (.ofString "out/r.json") document).1.writeReport
        (.ofString "out/r.html") page = (diskWithReports document page, .ok ()) :=
  ⟨rfl, rfl⟩

theorem delivers_reportOptions :
    Delivers diskOfLostFunction none reportOptions lostFunctionComparison := by
  refine ⟨⟨(writeReport_diskOfLostFunction _ []).1, nofun⟩, ?_⟩
  intro output hhtml
  cases hhtml
  exact congrArg Prod.snd (writeReport_diskOfLostFunction _ _).2

theorem parse_reportArguments :
    Options.parse (lostFunctionArguments ++ reportArguments) = .ok reportOptions := by
  decide

theorem exists_disk_lostFunctionRun : ∃ document page,
    (lostFunctionRun reportArguments).session.disk = diskWithReports document page := by
  obtain ⟨-, -, hdisk⟩ := @run_of_succeeds ⟨diskOfLostFunction, .info⟩ none _ _ _
    parse_reportArguments reaches_lostFunctionComparison delivers_reportOptions
  exact ⟨_, _, hdisk.trans (congrArg Prod.fst (writeReport_diskOfLostFunction _ _).2)⟩

theorem locate_diskWithReports_ne (document page : List UInt8) :
    (diskWithReports document page).locate (.ofString "out/r.json") ≠
      (diskWithReports document page).locate (.ofString "out/r.html") := by
  have hdocument : (diskWithReports document page).locate (.ofString "out/r.json") =
      .ok ["out", "r.json"] := rfl
  have hpage : (diskWithReports document page).locate (.ofString "out/r.html") =
      .ok ["out", "r.html"] := rfl
  rw [hdocument, hpage]
  decide

/-- One function has reached the new file and the other is lost: a table, a JSON document and
reports in files come with the same exit code and the same verdict. -/
theorem exists_exitCode_of_lost_function :
    ∃ code : ExitCode, code.toNat = 1 ∧
      (lostFunctionRun []).outcome = .ok code ∧
      Page.status? (lostFunctionRun []).stdout = some "FAILED" ∧
      (lostFunctionRun ["--format", "json"]).outcome = .ok code ∧
      Json.status? (lostFunctionRun ["--format", "json"]).stdout = some "FAILED" ∧
      (lostFunctionRun reportArguments).outcome = .ok code ∧
      Holds (lostFunctionRun reportArguments).session.disk "out/r.json" Json.status? "FAILED" ∧
      Holds (lostFunctionRun reportArguments).session.disk "out/r.html" Html.status? "FAILED" := by
  have hstatus : (Payload.ofComparison lostFunctionComparison).status = "FAILED" := by
    decide +kernel
  obtain ⟨code, hcode, -, hruns⟩ := exists_exitCode_of_reaches reaches_lostFunctionComparison
  rw [errors_lostFunctionComparison, if_neg (List.cons_ne_nil _ _)] at hcode
  rw [hstatus] at hruns
  obtain ⟨htable, hsaysTable⟩ := hruns ⟨diskOfLostFunction, .info⟩ none
    (lostFunctionArguments ++ []) .table none none false rfl (by decide)
    ⟨⟨rfl, fun _ => rfl⟩, nofun⟩
  obtain ⟨hstream, hsaysStream⟩ := hruns ⟨diskOfLostFunction, .info⟩ none
    (lostFunctionArguments ++ ["--format", "json"]) .json none none false rfl (by decide)
    ⟨⟨rfl, fun _ => rfl⟩, nofun⟩
  obtain ⟨hfiles, hsaysFiles⟩ := hruns ⟨diskOfLostFunction, .info⟩ none
    (lostFunctionArguments ++ reportArguments) .json (some "out/r.json") (some "out/r.html") true
    rfl parse_reportArguments delivers_reportOptions
  -- the two files are apart, so the page has not taken the place of the document
  have hfile : Holds (lostFunctionRun reportArguments).session.disk "out/r.json" Json.status?
      "FAILED" := by
    rcases hsaysFiles.file "out/r.json" rfl with hfile | ⟨_, ⟨⟩, hplace⟩
    · exact hfile
    · obtain ⟨document, page, hdisk⟩ := exists_disk_lostFunctionRun
      change (lostFunctionRun reportArguments).session.disk.locate _ =
        (lostFunctionRun reportArguments).session.disk.locate _ at hplace
      rw [hdisk] at hplace
      exact absurd hplace (locate_diskWithReports_ne document page)
  exact ⟨code, hcode, htable, hsaysTable.table (by decide), hstream, hsaysStream.stream rfl rfl,
    hfiles, hfile, hsaysFiles.page _ rfl⟩

end Relocation.Command
