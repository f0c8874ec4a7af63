import Relocation.Proofs.Comparison.Verdict
import Relocation.Proofs.Signature.Parts

/-!
# Every function is accounted for

A function of the old text remains, or it was removed, and then it was relocated or lost. Which of
the last two it is gets worked out in two ways: errors come from a search of the new files, while
`Comparison.lost` leaves out the names of the relocated functions. Both come to the same, and no
function is counted twice or left out, also where names are repeated and files share a base name.

* `Comparison.mem_relocated`, `Comparison.mem_lost` — which of the removed functions is which,
* `Comparison.mem_warnings` — what there are warnings of,
* `Comparison.duplicateMessage_notMem_of_mem_errors` — no function is lost and a duplicate,
* `Comparison.Accounts`, `Comparison.partition_removed_and_accounts` — **every function is accounted
  for once**.
-/

namespace Relocation.Comparison

open Signature (declaredNames)

/-! ## Relocated or lost -/

theorem declares_eq_decide (found : List Signature) (name : String) :
    declares found name = decide (name ∈ found.map Signature.name) := by
  rw [Bool.eq_iff_iff, declares_eq_true_iff, decide_eq_true_iff, List.mem_map]

theorem mem_relocated {c : Comparison} {s : Signature} :
    s ∈ c.relocated ↔ s ∈ c.removed ∧ declares c.newFiles.signatures s.name = true :=
  List.mem_filter

theorem mem_lost {c : Comparison} {s : Signature} :
    s ∈ c.lost ↔ s ∈ c.removed ∧ declares c.newFiles.signatures s.name = false := by
  rw [lost_eq, List.mem_filter, Bool.not_eq_true']

theorem length_removed (c : Comparison) :
    c.removed.length = c.relocated.length + c.lost.length := by
  rw [lost_eq]
  exact List.length_eq_length_filter_add _

/-! ## Messages -/

section Messages

variable {before after : String} {files : List SourceFile} {name name' file file' : String}

theorem toList_duplicateMessage (name file : String) :
    (duplicateMessage name file).toList = "Method '".toList ++
      (name.toList ++ '\'' :: (" exists in both refactored file and ".toList ++ file.toList)) := by
  simp only [duplicateMessage, toString, String.toList_append, List.append_assoc]
  rfl

/-- A name without quotes can be read off the warning that has it. -/
theorem eq_of_duplicateMessage_eq (hname : '\'' ∉ name.toList) (hname' : '\'' ∉ name'.toList)
    (h : duplicateMessage name file = duplicateMessage name' file') : name = name' := by
  have hlist := congrArg String.toList h
  rw [toList_duplicateMessage, toList_duplicateMessage] at hlist
  have hrest := List.append_cancel_left hlist
  exact String.toList_inj.mp (append_cons_inj hname hname' hrest).1

theorem duplicateMessage_ne_notSmallerMessage (linesBefore linesAfter : Nat) :
    duplicateMessage name file ≠ notSmallerMessage linesBefore linesAfter := by
  intro h
  have hassoc : ∀ a b c d e : String, a ++ b ++ c ++ d ++ e = a ++ (b ++ c ++ d ++ e) := by
    simp only [String.append_assoc, implies_true]
  have hlist := congrArg String.toList (h.trans (hassoc "Refactored file (" _ _ _ _))
  rw [toList_duplicateMessage, String.toList_append] at hlist
  exact absurd (List.cons.inj hlist).1 (by decide)

theorem isIdentifier_of_mem_declaredNames {text : String} (h : name ∈ declaredNames text) :
    IsIdentifier name.toList := by
  obtain ⟨s, hs, rfl⟩ := List.mem_map.mp h
  obtain ⟨i, line, -, hline⟩ := Signature.mem_extract.mp hs
  obtain ⟨-, before, after, -, -, -, -, hrun, -⟩ := (Signature.inPlace_of_ofLine? hline).name
  exact ⟨hrun.ne_nil, hrun.word⟩

theorem quote_notMem_of_mem_declaredNames {text : String} (h : name ∈ declaredNames text) :
    '\'' ∉ name.toList :=
  (isIdentifier_of_mem_declaredNames h).notMem (by decide)

/-- There are warnings of a text that did not shrink, and of the names that both the new text and
the last file of some base name declare. -/
theorem mem_warnings {message : String} :
    message ∈ (ofTexts before after files).warnings ↔
      Text.countLines before ≤ Text.countLines after ∧
        message = notSmallerMessage (Text.countLines before) (Text.countLines after) ∨
      ∃ f : SourceFile, f.IsLast files ∧ ∃ name ∈ declaredNames f.content,
        name ∈ declaredNames after ∧ duplicateMessage name (basename f.path) = message := by
  have hsize : ∀ {p : Prop} [Decidable p] {m : String},
      message ∈ (if p then [m] else []) ↔ p ∧ message = m := by
    intro p _ m
    split <;> simp_all
  simp only [ofTexts, List.mem_append, hsize, List.mem_flatMap, List.mem_map, List.mem_filter,
    declares_extract_iff, Prod.exists, FileMap.mem_entries_ofFiles]
  refine or_congr_right ⟨?_, ?_⟩
  · rintro ⟨_, _, ⟨f, hf, rfl, rfl⟩, s, ⟨hs, hafter⟩, rfl⟩
    exact ⟨f, hf, s.name, List.mem_map.mpr ⟨s, hs, rfl⟩, hafter, rfl⟩
  · rintro ⟨f, hf, name, hname, hafter, rfl⟩
    obtain ⟨s, hs, rfl⟩ := List.mem_map.mp hname
    exact ⟨_, _, ⟨f, hf, rfl, rfl⟩, s, ⟨hs, hafter⟩, rfl⟩

/-- No function is lost and a duplicate. -/
theorem duplicateMessage_notMem_of_mem_errors
    (h : lostMessage name ∈ (ofTexts before after files).errors) :
    duplicateMessage name file ∉ (ofTexts before after files).warnings := by
  intro hwarning
  obtain ⟨lost, hlost, hgone, -, hmessage⟩ := mem_errors.mp h
  obtain rfl := lostMessage_inj hmessage
  rcases mem_warnings.mp hwarning with ⟨-, hsize⟩ | ⟨f, -, duplicate, hname, hafter, hmessage⟩
  · exact duplicateMessage_ne_notSmallerMessage _ _ hsize
  · obtain rfl := eq_of_duplicateMessage_eq (quote_notMem_of_mem_declaredNames hname)
      (quote_notMem_of_mem_declaredNames hlost) hmessage
    exact hgone hafter

end Messages

/-! ## All functions of the old text -/

/-- A comparison that accounts for every function of the old text. -/
structure Accounts (before : String) (c : Comparison) : Prop where
  /-- the errors are those of the lost functions, in order and with repetitions -/
  errors_eq : c.errors =
    c.lost.map fun s => s!"Method '{s.name}' was removed but not found in any new file"
  /-- a function has a name that remains, or else it was relocated or is lost, and not both -/
  exactly_one : ∀ s ∈ Signature.extract before,
    s.name ∈ c.remaining.map Signature.name ∧ s ∉ c.relocated ∧ s ∉ c.lost ∨
    s.name ∉ c.remaining.map Signature.name ∧ s ∈ c.relocated ∧ s ∉ c.lost ∨
    s.name ∉ c.remaining.map Signature.name ∧ s ∉ c.relocated ∧ s ∈ c.lost
  /-- the numbers add up -/
  length_eq : (Signature.extract before).length =
    ((Signature.extract before).filter
        fun s => s.name ∈ c.remaining.map Signature.name).length +
      c.relocated.length + c.lost.length
  /-- no error has the name that a warning of a duplicate has -/
  apart : ∀ name file : String,
    s!"Method '{name}' was removed but not found in any new file" ∈ c.errors →
    s!"Method '{name}' exists in both refactored file and {file}" ∉ c.warnings

theorem removed_ofTexts (before after : String) (files : List SourceFile) :
    (ofTexts before after files).removed = (Signature.extract before).filter fun s =>
      !decide (s.name ∈ (ofTexts before after files).remaining.map Signature.name) := by
  simp only [← declares_eq_decide]
  rfl

theorem mem_removed {before after : String} {files : List SourceFile} {s : Signature} :
    s ∈ (ofTexts before after files).removed ↔ s ∈ Signature.extract before ∧
      s.name ∉ (ofTexts before after files).remaining.map Signature.name := by
  rw [removed_ofTexts, List.mem_filter, Bool.not_eq_true', decide_eq_false_iff_not]

/-- **Every function is accounted for once.** Whatever comparison there is, the removed functions
are shared out between the relocated and the lost ones. A comparison of texts accounts for every
function of the old text. -/
theorem partition_removed_and_accounts :
    (∀ c : Comparison,
      c.removed.partition (fun s => s.name ∈ c.newFiles.signatures.map Signature.name) =
        (c.relocated, c.lost)) ∧
    ∀ (before after : String) (files : List SourceFile),
      Accounts before (ofTexts before after files) := by
  refine ⟨fun c => ?_, fun before after files => ⟨errors_ofTexts before after files, fun s hs => ?_,
    ?_, fun name file => duplicateMessage_notMem_of_mem_errors⟩⟩
  · rw [List.partition_eq_filter_filter, lost_eq]
    simp only [← declares_eq_decide]
    rfl
  · rw [mem_relocated, mem_lost, mem_removed]
    by_cases hname : s.name ∈ (ofTexts before after files).remaining.map Signature.name
    · exact .inl ⟨hname, fun h => h.1.2 hname, fun h => h.1.2 hname⟩
    · cases declares (ofTexts before after files).newFiles.signatures s.name with
      | true => exact .inr (.inl ⟨hname, ⟨⟨hs, hname⟩, rfl⟩, fun h => (nomatch h.2)⟩)
      | false => exact .inr (.inr ⟨hname, fun h => (nomatch h.2), ⟨hs, hname⟩, rfl⟩)
  · rw [Nat.add_assoc, ← length_removed, removed_ofTexts]
    exact List.length_eq_length_filter_add _

/-- A function that the old text has twice is lost twice, next to one that moved. -/
theorem errors_eq_of_overloads :
    (ofTexts "def f():\ndef g():\ndef f(x):" "" [⟨"x.py", "def g():"⟩]).errors =
      ["Method 'f' was removed but not found in any new file",
        "Method 'f' was removed but not found in any new file"] :=
  (partition_removed_and_accounts.2 _ _ _).errors_eq.trans (by decide +kernel)

end Relocation.Comparison
