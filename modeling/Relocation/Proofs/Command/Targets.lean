import Relocation.Proofs.Command.Gathering
import Relocation.Proofs.Disk.Change

/-!
# The targets of a run

All that a run changes on the disk it changes on the way to write its reports, and it does nothing
to the disk but write them.

* `Command.targets` — the paths that the reports of a run go to,
* `Command.Writes` — a task changes the disk only on the way to write to some paths,
* `Command.changes_run` — **a run writes to its targets only**, however it ends.
-/

namespace Relocation.Command

open Relocation.Task

variable {session : Session} {refusal : Option String} {arguments : List String} {o : Options}
  {c : Comparison} {paths : List Path}

/-- The paths that the reports of a run go to: that of the report, if it goes into a file, and that
of the HTML report. -/
def targets (o : Options) : List Path :=
  ((reportFile? o).toList ++ (requested o.html).toList).map .ofString

theorem mem_targets_of_reportFile? {output : String} (h : reportFile? o = some output) :
    .ofString output ∈ targets o := by
  simp [targets, h]

theorem mem_targets_of_html {output : String} (h : requested o.html = some output) :
    .ofString output ∈ targets o := by
  simp [targets, h]

/-! ## Tasks that write -/

section Writes

variable {ε ε' α β : Type} {t : Task World ε α}

/-- A task changes the disk only on the way to write to some paths, whatever comes of it. -/
def Writes (paths : List Path) (t : Task World ε α) : Prop :=
  ∀ j, Disk.Changes paths j.state.disk (left t j).state.disk

theorem writes_of_keeps (h : Keeps World.setting t) : Writes paths t := by
  intro j
  rw [disk_left h]

theorem Writes.bind {f : α → Task World ε β} (ht : Writes paths t)
    (hf : ∀ a, Writes paths (f a)) : Writes paths (t >>= f) := by
  intro j
  rw [left_bind]
  cases outcome t j with
  | ok a => exact (ht j).trans (hf a _)
  | error e => exact ht j

theorem Writes.rescue {handle : ε → Task World ε' α} (ht : Writes paths t)
    (hhandle : ∀ e, Writes paths (handle e)) : Writes paths (t.rescue handle) := by
  intro j
  rw [left_rescue]
  cases outcome t j with
  | ok a => exact ht j
  | error e => exact (ht j).trans (hhandle e _)

end Writes

theorem writes_writeFile {p : Path} (hp : p ∈ paths) (text : String) :
    Writes paths (writeFile p text) := by
  intro j
  rw [disk_left_writeFile]
  exact Disk.changes_writeReport hp _ _

theorem keeps_endVerification {α : Type} (o : Options) (failure : Failure) :
    Keeps World.setting (endVerification o failure : Task World Ending α) := by
  cases failure with
  | input e => exact keeps_fail _ _
  | report message => exact keeps_fail _ _
  | abort a => exact keeps_throw _

theorem writes_present (o : Options) (c : Comparison) : Writes (targets o) (present o c) := by
  intro j
  rw [disk_left_present]
  unfold reported
  split
  · next output houtput => exact Disk.changes_writeReport (mem_targets_of_reportFile? houtput) _ _
  · exact .refl

theorem writes_writeHtml {output : String} (h : requested o.html = some output)
    (c : Comparison) : Writes (targets o) (writeHtml output c) := by
  apply Writes.bind
  · apply (writes_writeFile (mem_targets_of_html h) _).rescue
    intro fault
    split
    · exact writes_of_keeps (keeps_fail _ _)
    · exact writes_of_keeps (keeps_throw _)
  · intro _
    exact writes_of_keeps (keeps_log _)

theorem writes_finish (o : Options) (c : Comparison) : Writes (targets o) (finish o c) := by
  unfold finish
  split
  · next output hhtml =>
    apply (writes_writeHtml hhtml c).bind
    intro _
    exact writes_of_keeps (keeps_pure _)
  · exact writes_of_keeps (keeps_pure _)

theorem writes_verification (d : Disk) (before after : Path) (files : List Path) (o : Options) :
    Writes (targets o) (verification d before after files o) := by
  apply Writes.rescue
  · rw [verify_eq]
    apply (writes_of_keeps keeps_compared).bind
    intro c
    apply (writes_present o c).bind
    intro _
    exact writes_of_keeps (keeps_pure _)
  · intro failure
    exact writes_of_keeps (keeps_endVerification o failure)

/-- **What is done for given options** changes the disk only on the way to the targets. -/
theorem writes_perform (o : Options) : Writes (targets o) (perform o) := by
  rw [perform_eq]
  apply (writes_of_keeps (keeps_selectFiles o)).bind
  intro files
  apply (writes_of_keeps (keeps_pathOf _)).bind
  intro before
  apply (writes_of_keeps (keeps_pathOf _)).bind
  intro after
  apply (writes_of_keeps keeps_current).bind
  intro w
  exact (writes_verification w.disk before after files o).bind (writes_finish o)

/-! ## Runs -/

theorem disk_run_of_parse (h : Options.parse arguments = .ok o) :
    (run session refusal arguments).session.disk =
      (left (perform o) (session.journal refusal)).state.disk := by
  rw [run, h]
  dsimp only
  split
  · rfl
  · rfl

theorem session_run_of_stop {stop : Stop} (h : Options.parse arguments = .error stop) :
    (run session refusal arguments).session = session := by
  rw [run, h]
  rfl

/-- **A run writes to its targets only**, however it ends. -/
theorem changes_run (session : Session) (refusal : Option String)
    (h : Options.parse arguments = .ok o) :
    Disk.Changes (targets o) session.disk (run session refusal arguments).session.disk := by
  rw [disk_run_of_parse h]
  exact writes_perform o (session.journal refusal)

end Relocation.Command
