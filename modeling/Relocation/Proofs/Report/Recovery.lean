import Relocation.Proofs.FileMap
import Relocation.Proofs.Report.Document
import Relocation.Report.Page

/-!
# What can be read off a page

A page shows errors and warnings in one format, leaves out their sections if there are none, and has
a table for each new file. Still nothing is lost: messages are told apart by their tone, and tables
by their order. Only controls that no console shows are gone from tables.

* `Page.textsIn`, `Page.tables` — the printed texts of one tone, and the tables of a page,
* `Page.textsIn_ofComparison`, `Page.tables_ofComparison` — what they are below the verdict on the
  page of a comparison,
* `Page.signatures_inj` — signatures are told by their table,
* `Comparison.IsVisible`, `Comparison.eq_of_ofComparison_eq` — **a comparison is told by its page**.
-/

namespace Relocation

open Layout (Table)

/-- Of lists whose elements a function tells apart, the function tells apart the lists as well. -/
theorem eq_of_map_eq_map {α β : Type} {P : α → Prop} {f : α → β}
    (hf : ∀ a b, P a → P b → f a = f b → a = b) {l l' : List α} (hl : ∀ a ∈ l, P a)
    (hl' : ∀ a ∈ l', P a) (h : l.map f = l'.map f) : l = l' := by
  induction l generalizing l' with
  | nil => exact (List.map_eq_nil_iff.mp h.symm).symm
  | cons a l ih =>
    obtain ⟨b, l', rfl, hab, hrest⟩ := List.map_eq_cons_iff.mp h.symm
    rw [List.forall_mem_cons] at hl hl'
    rw [hf a b hl.1 hl'.1 hab.symm, ih hl.2 hl'.2 hrest.symm]

namespace Page

/-! ## Parts of a page -/

/-- The texts that a page prints in a given tone, in order. -/
def textsIn (tone : Tone) (page : Page) : List String :=
  page.filterMap fun
    | .text content t => if t = tone then some content else none
    | _ => none

/-- The tables of a page, in order. -/
def tables (page : Page) : List Table :=
  page.filterMap fun
    | .table t => some t
    | _ => none

/-- A message as a page prints it. -/
def item (message : String) : String :=
  s!"  - {message}"

theorem item_injective : Function.Injective item := by
  intro message message' h
  have hlist := congrArg String.toList h
  simp only [item, toString, String.toList_append] at hlist
  exact String.toList_inj.mp (List.append_cancel_left hlist)

theorem textsIn_append (tone : Tone) (page page' : Page) :
    textsIn tone (page ++ page') = textsIn tone page ++ textsIn tone page' :=
  List.filterMap_append

theorem tables_append (page page' : Page) : tables (page ++ page') = tables page ++ tables page' :=
  List.filterMap_append

theorem textsIn_table (tone : Tone) (ts : List Table) : textsIn tone (ts.map .table) = [] := by
  simp [textsIn]

theorem tables_table (ts : List Table) : tables (ts.map .table) = ts := by
  simp [tables]

/-- The section of some messages has these in their tone, and nothing in any other one. -/
theorem textsIn_messages {tone : Tone} (htone : Tone.heading ≠ tone) (heading : String)
    (tone' : Tone) (texts : List String) :
    textsIn tone (messages heading tone' texts) =
      if tone' = tone then texts.map item else [] := by
  have hitems : textsIn tone (texts.map fun text => .text s!"  - {text}" tone') =
      if tone' = tone then texts.map item else [] := by
    rw [textsIn, List.filterMap_map]
    split
    · next h => simp [h, item]
    · next h => simp [h]
  cases texts with
  | nil => exact hitems
  | cons text texts =>
    rw [← hitems]
    simp [messages, textsIn, htone]

theorem tables_messages (heading : String) (tone : Tone) (texts : List String) :
    tables (messages heading tone texts) = [] := by
  cases texts with
  | nil => rfl
  | cons text texts => simp [messages, tables]

/-! ## The page of a comparison -/

/-- The tables on the page of a comparison. -/
def tablesOf (c : Comparison) : List Table :=
  summary c :: signatures "Removed Methods" "was at line" c.removed ::
    signatures "Remaining Methods in Refactored File" "line" c.remaining ::
    c.newFiles.entries.map fun (name, found) => signatures s!"New File: {name}" "line" found

/-- Below the heading and the verdict come the messages, and below these the tables. -/
theorem drop_ofComparison (c : Comparison) :
    (ofComparison c).drop 2 = messages "Errors" .failed c.errors ++
      (messages "Warnings" .warning c.warnings ++ (tablesOf c).map .table) := by
  simp [ofComparison, tablesOf, Function.comp_def]

theorem textsIn_ofComparison {tone : Tone} (htone : Tone.heading ≠ tone) (c : Comparison) :
    textsIn tone ((ofComparison c).drop 2) =
      (if Tone.failed = tone then c.errors.map item else []) ++
        if Tone.warning = tone then c.warnings.map item else [] := by
  rw [drop_ofComparison, textsIn_append, textsIn_append, textsIn_messages htone,
    textsIn_messages htone, textsIn_table, List.append_nil]

theorem tables_ofComparison (c : Comparison) :
    tables ((ofComparison c).drop 2) = tablesOf c := by
  rw [drop_ofComparison, tables_append, tables_append, tables_messages, tables_messages,
    tables_table]
  rfl

/-! ## Tables of signatures -/

/-- A text has none of the controls that no console shows. -/
def IsVisible (s : String) : Prop :=
  ∀ c ∈ s.toList, Layout.dropped.contains c = false

/-- A signature of visible texts. -/
structure HasVisible (s : Signature) : Prop where
  name : IsVisible s.name
  declarator : IsVisible s.declarator

instance (s : String) : Decidable (IsVisible s) :=
  List.decidableBAll _ s.toList

instance (s : Signature) : Decidable (HasVisible s) :=
  decidable_of_iff (IsVisible s.name ∧ IsVisible s.declarator)
    ⟨fun h => ⟨h.1, h.2⟩, fun h => ⟨h.name, h.declarator⟩⟩

theorem cell_of_isVisible {s : String} (h : IsVisible s) : cell s = s := by
  rw [cell, Layout.visible, List.filter_eq_self.mpr fun c hc => by rw [h c hc]; rfl,
    String.ofList_toList]

/-- Visible texts are told by their cells. -/
theorem cell_inj {s s' : String} (hs : IsVisible s) (hs' : IsVisible s') (h : cell s = cell s') :
    s = s' := by
  rwa [cell_of_isVisible hs, cell_of_isVisible hs'] at h

/-- Numbers are told by their digits. -/
theorem eq_of_toString_eq {n n' : Int} (h : toString n = toString n') : n = n' := by
  have hdenotes (n : Int) : Json.Denotes (toString n).toList (.number n) :=
    ⟨[], _, [], Json.blank_nil, Json.spells_number n, Json.blank_nil, by simp⟩
  have hdenotes' := hdenotes n'
  rw [← h] at hdenotes'
  exact Json.number.inj ((hdenotes n).unique hdenotes')

/-- Signatures of visible texts are told by their table. -/
theorem signatures_inj {title title' header : String} {found found' : List Signature}
    (hfound : ∀ s ∈ found, HasVisible s) (hfound' : ∀ s ∈ found', HasVisible s)
    (h : signatures title header found = signatures title' header found') : found = found' := by
  refine eq_of_map_eq_map (fun s s' hs hs' hrow => ?_) hfound hfound' (congrArg Table.rows h)
  simp only [List.cons.injEq, and_true] at hrow
  obtain ⟨hname, hline, hdeclarator⟩ := hrow
  obtain ⟨name, declarator, line⟩ := s
  obtain ⟨name', declarator', line'⟩ := s'
  obtain rfl : name = name' := cell_inj hs.name hs'.name hname
  obtain rfl : declarator = declarator' := cell_inj hs.declarator hs'.declarator hdeclarator
  obtain rfl : line = line' := eq_of_toString_eq hline
  rfl

/-- New files of visible names are told by the titles of their tables. -/
theorem newFileTitle_inj {name other : String} (hname : IsVisible name) (hother : IsVisible other)
    (h : cell s!"New File: {name}" = cell s!"New File: {other}") : name = other := by
  refine cell_inj hname hother ?_
  have hlist := String.ofList_inj.mp h
  simp only [toString, String.toList_append, Layout.visible, List.filter_append] at hlist
  exact congrArg String.ofList (List.append_cancel_left hlist)

end Page

/-! ## Comparisons -/

namespace Comparison

open Page (HasVisible)

/-- A comparison whose signatures and files have visible texts. Messages may be any texts. -/
structure IsVisible (c : Comparison) : Prop where
  removed : ∀ s ∈ c.removed, HasVisible s
  remaining : ∀ s ∈ c.remaining, HasVisible s
  names : ∀ entry ∈ c.newFiles.entries, Page.IsVisible entry.1
  newFiles : ∀ entry ∈ c.newFiles.entries, ∀ s ∈ entry.2, HasVisible s

instance (c : Comparison) : Decidable c.IsVisible :=
  decidable_of_iff ((∀ s ∈ c.removed, HasVisible s) ∧ (∀ s ∈ c.remaining, HasVisible s) ∧
      (∀ entry ∈ c.newFiles.entries, Page.IsVisible entry.1) ∧
      ∀ entry ∈ c.newFiles.entries, ∀ s ∈ entry.2, HasVisible s)
    ⟨fun h => ⟨h.1, h.2.1, h.2.2.1, h.2.2.2⟩,
      fun h => ⟨h.removed, h.remaining, h.names, h.newFiles⟩⟩

variable {c c' : Comparison}

/-- New files of visible texts are told by their tables. -/
theorem newFiles_eq_of_tables (hc : c.IsVisible) (hc' : c'.IsVisible)
    (h : (c.newFiles.entries.map fun (name, found) =>
        Page.signatures s!"New File: {name}" "line" found) =
      c'.newFiles.entries.map fun (name, found) =>
        Page.signatures s!"New File: {name}" "line" found) :
    c.newFiles = c'.newFiles := by
  apply FileMap.eq_of_entries_eq
  refine eq_of_map_eq_map (P := fun entry => Page.IsVisible entry.1 ∧ ∀ s ∈ entry.2, HasVisible s)
    ?_ (fun entry hentry => ⟨hc.names entry hentry, hc.newFiles entry hentry⟩)
    (fun entry hentry => ⟨hc'.names entry hentry, hc'.newFiles entry hentry⟩) h
  rintro ⟨name, found⟩ ⟨name', found'⟩ ⟨hname, hfound⟩ ⟨hname', hfound'⟩ htable
  obtain rfl : name = name' := Page.newFileTitle_inj hname hname' (congrArg Table.title htable)
  obtain rfl : found = found' := Page.signatures_inj hfound hfound' htable
  rfl

/-- **A comparison is told by its page.** If the pages of two comparisons are the same, so are the
comparisons, provided that the names and declarators of their signatures and the names of their
files have none of the controls that no console shows. -/
theorem eq_of_ofComparison_eq (hc : c.IsVisible) (hc' : c'.IsVisible)
    (h : Page.ofComparison c = Page.ofComparison c') : c = c' := by
  have hbody := congrArg (List.drop 2) h
  have herrors : c.errors.map Page.item = c'.errors.map Page.item := by
    simpa [Page.textsIn_ofComparison] using congrArg (Page.textsIn .failed) hbody
  have hwarnings : c.warnings.map Page.item = c'.warnings.map Page.item := by
    simpa [Page.textsIn_ofComparison] using congrArg (Page.textsIn .warning) hbody
  have htables : Page.tablesOf c = Page.tablesOf c' := by
    simpa only [Page.tables_ofComparison] using congrArg Page.tables hbody
  obtain ⟨-, htables⟩ := List.cons.inj htables
  obtain ⟨hremoved, htables⟩ := List.cons.inj htables
  obtain ⟨hremaining, hnewFiles⟩ := List.cons.inj htables
  have hnewFiles := newFiles_eq_of_tables hc hc' hnewFiles
  have hremoved := Page.signatures_inj hc.removed hc'.removed hremoved
  have hremaining := Page.signatures_inj hc.remaining hc'.remaining hremaining
  have hitems := List.map_injective_iff.mpr Page.item_injective
  obtain ⟨removed, remaining, newFiles, warnings, errors⟩ := c
  obtain ⟨removed', remaining', newFiles', warnings', errors'⟩ := c'
  obtain rfl : removed = removed' := hremoved
  obtain rfl : remaining = remaining' := hremaining
  obtain rfl : newFiles = newFiles' := hnewFiles
  obtain rfl : warnings = warnings' := hitems hwarnings
  obtain rfl : errors = errors' := hitems herrors
  rfl

/-- A page with an error, with warnings of both kinds and with a table of a new file. -/
theorem eq_of_ofComparison_eq_of_lost_function :
    ofTexts "def f():\ndef g():" "def g():\n" [⟨"a/x.py", "\tdef g():"⟩] =
      { removed := [⟨"f", "def f():", 1⟩]
        remaining := [⟨"g", "def g():", 1⟩]
        newFiles := .ofList [("x.py", [⟨"g", "def g():", 1⟩])]
        warnings := ["Refactored file (2 lines) is not smaller than original (2 lines)",
          "Method 'g' exists in both refactored file and x.py"]
        errors := ["Method 'f' was removed but not found in any new file"] } :=
  eq_of_ofComparison_eq (by decide +kernel) (by decide +kernel) (by decide +kernel)

end Comparison

end Relocation
