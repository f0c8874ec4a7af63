import Relocation.Command.Run
import Relocation.Proofs.Report.Recoding

/-!
# The verdict in a report

All reports of a comparison say its verdict, each in its own way: a JSON document under a key, a
console text in its second line, an HTML page in the second line of the text that it shows.

* `Json.status?`, `Page.status?`, `Html.status?` — the verdict that a text says,
* `Comparison.status?_document`, `status?_streamDocument`, `status?_coloured`,
  `status?_htmlReport` — **every report says the verdict of its comparison**,
* `Html.shown?_document` — a page shows the text that it was made for.
-/

namespace Relocation

/-! ## JSON -/

namespace Json

/-- The value of an object under a key. -/
def member? (key : String) : Json → Option Json
  | object members => members.lookup key
  | _ => none

/-- The verdict that a JSON text says. -/
def status? (text : String) : Option String :=
  match (read? text.toList).bind (member? "status") with
  | some (.text s) => some s
  | _ => none

theorem lookup_sortedMembers (key : String) (members : List (String × Json)) :
    (sortedMembers members).lookup key = (members.lookup key).map sorted := by
  induction members with
  | nil => rfl
  | cons member rest ih =>
    obtain ⟨key', value⟩ := member
    rw [sortedMembers, List.lookup_cons, List.lookup_cons, ih]
    cases key == key' <;> rfl

/-- Sorting leaves each value under its key. -/
theorem member?_sorted {j value : Json} {key : String} (hnodup : j.AllKeys List.Nodup)
    (h : j.member? key = some value) : j.sorted.member? key = some value.sorted := by
  cases j with
  | object members =>
    have hlookup : (sortedMembers members).lookup key = some value.sorted := by
      rw [lookup_sortedMembers, show members.lookup key = some value from h, Option.map_some]
    have hperm := List.mergeSort_perm (sortedMembers members) fun a b => a.1 ≤ b.1
    have hkeys : ((sortedMembers members).map Prod.fst).Nodup := by
      rw [keys_sortedMembers]
      exact hnodup.1
    exact Entries.lookup_of_mem ((hperm.map Prod.fst).nodup_iff.mpr hkeys)
      (hperm.mem_iff.mpr (Entries.mem_of_lookup hlookup))
  | text s => cases h
  | number n => cases h
  | list items => cases h

/-- Keys that stay lead to what has become of their values. -/
theorem lookup_mapMembers {f g : String → String} (key : String) {members : List (String × Json)}
    (hkeys : ∀ key ∈ members.map Prod.fst, g key = key) :
    (mapMembers f g members).lookup key = (members.lookup key).map (mapTexts f g) := by
  induction members with
  | nil => rfl
  | cons member rest ih =>
    obtain ⟨key', value⟩ := member
    obtain ⟨hkey', hrest⟩ := List.forall_mem_cons.mp hkeys
    rw [mapMembers, show g key' = key' from hkey', List.lookup_cons, List.lookup_cons, ih hrest]
    cases key == key' <;> rfl

end Json

namespace Comparison

theorem member?_status (c : Comparison) :
    (Payload.ofComparison c).toJson.sorted.member? "status" = some (.text c.status) := by
  have hstatus : (Payload.ofComparison c).toJson.member? "status" = some (.text c.status) := rfl
  exact Json.member?_sorted c.allKeys_toJson hstatus

theorem status?_document (c : Comparison) : Json.status? c.document = some c.status := by
  have hdenotes := Json.denotes_document (Payload.ofComparison c).toJson
  rw [Json.status?, document, Json.read?_eq_some_of_denotes hdenotes, Option.bind_some,
    member?_status]

theorem isPlain_quote_status (c : Comparison) : Shortcode.IsPlain (Json.quote c.status) := by
  unfold status
  split <;> exact Shortcode.isPlain_of_not_mem (by decide)

/-- The keys of a report have no codes. -/
theorem isPlain_keys (c : Comparison) : ∀ members,
    (Payload.ofComparison c).toJson.sorted = .object members →
      ∀ key ∈ members.map Prod.fst, Shortcode.IsPlain (Json.quote key ++ [':']) := by
  have hkeys : ∀ key ∈ ["status", "errors", "warnings", "summary", "removed_methods",
      "remaining_methods", "new_file_methods"], ':' ∉ Json.quote key := by decide
  rintro _ ⟨⟩ key hkey
  rw [((List.mergeSort_perm _ _).map Prod.fst).mem_iff, Json.keys_sortedMembers] at hkey
  exact Json.isPlain_key (hkeys key hkey)

theorem status?_streamDocument (c : Comparison) :
    Json.status? c.streamDocument = some c.status := by
  obtain ⟨f, g, h, hread⟩ := c.read?_streamDocument
  have hmember : ((Payload.ofComparison c).toJson.sorted.mapTexts f g).member? "status" =
      some (.text c.status) := by
    have hstatus := member?_status c
    have hplain := isPlain_keys c
    cases hsorted : (Payload.ofComparison c).toJson.sorted with
    | object members =>
      rw [hsorted] at hstatus
      refine (Json.lookup_mapMembers "status" fun key hkey =>
        h.key_eq key (hplain members hsorted key hkey)).trans ?_
      rw [show members.lookup "status" = some (.text c.status) from hstatus, Option.map_some,
        Json.mapTexts, h.text_eq _ c.isPlain_quote_status]
    | text s => cases hsorted
    | number n => cases hsorted
    | list items => cases hsorted
  rw [Json.status?, hread, Option.bind_some, hmember]

end Comparison

/-! ## Console texts -/

namespace Page

/-- A line without control sequences. The flag is whether one has begun. -/
def uncoloured : (begun : Bool) → List Char → List Char
  | _, [] => []
  | false, c :: rest =>
    if c = '\x1b' then uncoloured true rest else c :: uncoloured false rest
  | true, c :: rest => uncoloured (c != 'm') rest

/-- The verdict that the second line of a console text says. -/
def status? (text : String) : Option String :=
  match (text.toList.splitOn '\n')[1]? with
  | some line =>
    (Shortcode.after? "Status: ".toList (uncoloured false line)).map String.ofList
  | none => none

/-- A way to paint texts that says the verdict in one line. -/
def Paints (paint : Tone → List Char → List Char) : Prop :=
  ∀ tone ∈ [Tone.passed, Tone.failed], ∀ status ∈ ["PASSED", "FAILED"],
    '\n' ∉ paint tone s!"Status: {status}".toList ∧
      uncoloured false (paint tone s!"Status: {status}".toList) = s!"Status: {status}".toList

theorem paints_plain : Paints fun _ text => text := by
  unfold Paints
  decide +kernel

theorem paints_paint : Paints Tone.paint := by
  unfold Paints
  decide +kernel

/-- A verdict fits into one line. -/
theorem printed_status : ∀ width ∈ [Command.consoleWidth, Command.htmlWidth],
    ∀ status ∈ ["PASSED", "FAILED"],
      Layout.printed width (Shortcode.expand s!"Status: {status}".toList) =
        [[s!"Status: {status}".toList]] := by
  decide +kernel

theorem newline_not_mem_ruleLine (width : Nat) {title : List Char} {fill : Char}
    (htitle : '\n' ∉ title) (hfill : '\n' ≠ fill) : '\n' ∉ ruleLine width title fill := by
  simp [ruleLine, htitle, hfill, List.mem_replicate]

theorem status?_of_lines {first second rest : List Char} (hfirst : '\n' ∉ first)
    (hsecond : '\n' ∉ second) :
    status? (.ofList (first ++ '\n' :: (second ++ '\n' :: rest))) =
      (Shortcode.after? "Status: ".toList (uncoloured false second)).map String.ofList := by
  rw [status?, String.toList_ofList, List.splitOn_append_cons_self, List.splitOn_append_cons_self,
    List.splitOn_eq_singleton hfirst, List.splitOn_eq_singleton hsecond]
  rfl

end Page

namespace Comparison

theorem status_mem (c : Comparison) : c.status ∈ ["PASSED", "FAILED"] := by
  unfold status
  split <;> decide

/-- However its texts are painted, the page of a comparison says the verdict. -/
theorem status?_draw (c : Comparison) {paint : Tone → List Char → List Char}
    (hpaint : Page.Paints paint) {width : Nat}
    (hwidth : width ∈ [Command.consoleWidth, Command.htmlWidth]) :
    Page.status? ((Page.ofComparison c).draw width paint) = some c.status := by
  obtain ⟨tone, htone, heq⟩ : ∃ tone ∈ [Tone.passed, Tone.failed],
      (if c.passed then Tone.passed else Tone.failed) = tone := by
    split
    · exact ⟨_, by decide, rfl⟩
    · exact ⟨_, by decide, rfl⟩
  obtain ⟨hnewline, huncoloured⟩ := hpaint tone htone c.status c.status_mem
  have hprinted := Page.printed_status width hwidth c.status c.status_mem
  have hrule : '\n' ∉ Page.ruleLine width "Refactoring Verification Results".toList '-' :=
    Page.newline_not_mem_ruleLine width (by decide) (by decide)
  simp only [Page.draw, Page.ofComparison, heq, List.cons_append, List.nil_append,
    List.flatMap_cons, Page.blockLines, hprinted, List.map_cons, List.map_nil, List.flatMap_nil,
    List.append_nil, List.append_assoc]
  have htext : s!"Status: {c.status}".toList = "Status: ".toList ++ c.status.toList :=
    String.toList_append
  rw [Page.status?_of_lines hrule hnewline, huncoloured,
    Shortcode.after?_eq_some_iff.mpr htext, Option.map_some, String.ofList_toList]

theorem status?_coloured (c : Comparison) :
    Page.status? ((Page.ofComparison c).coloured Command.consoleWidth) = some c.status :=
  c.status?_draw Page.paints_paint (by decide)

theorem status?_render (c : Comparison) :
    Page.status? ((Page.ofComparison c).render Command.htmlWidth) = some c.status :=
  c.status?_draw Page.paints_plain (by decide)

end Comparison

/-! ## HTML pages -/

namespace Html

/-- An entity is read as its character. -/
theorem entity?_append : ∀ entry ∈ entities, ∀ rest,
    entity? (entry.2.toList ++ rest) = some (entry.1, rest) := by
  intro entry hentry rest
  simp only [entities, List.mem_cons, List.not_mem_nil, or_false] at hentry
  rcases hentry with rfl | rfl | rfl | rfl | rfl
  · rfl
  · rfl
  · rfl
  · rfl
  · rfl

/-- Every entity starts with an ampersand. -/
theorem exists_entity_eq_cons : ∀ entry ∈ entities, ∃ rest, entry.2.toList = '&' :: rest := by
  have hhead : ∀ entry ∈ entities, entry.2.toList.head? = some '&' := by decide
  intro entry hentry
  exact ⟨_, List.eq_cons_of_mem_head? (hhead entry hentry)⟩

theorem entity?_eq_none {c : Char} (hc : c ≠ '&') (rest : List Char) :
    entity? (c :: rest) = none := by
  refine List.findSome?_eq_none_iff.mpr fun entry hentry => if_neg fun hprefix => ?_
  obtain ⟨tail, htail⟩ := List.isPrefixOf_iff_prefix.mp hprefix
  obtain ⟨start, hstart⟩ := exists_entity_eq_cons entry hentry
  rw [hstart] at htail
  exact hc (List.cons.inj htail).1.symm

theorem length_le_flatMap_escape (text : List Char) :
    text.length ≤ (text.flatMap escape).length := by
  have hescape (c : Char) : 1 ≤ (escape c).length := by
    unfold escape
    split
    · next entity hlookup =>
      obtain ⟨rest, hentity⟩ := exists_entity_eq_cons _ (Entries.mem_of_lookup hlookup)
      simp [show entity.toList = '&' :: rest from hentity]
    · exact Nat.le_refl 1
  induction text with
  | nil => exact Nat.le_refl 0
  | cons c text ih =>
    rw [List.flatMap_cons, List.length_append, List.length_cons, Nat.add_comm]
    exact Nat.add_le_add (hescape c) ih

/-- A text that was escaped is read back up to the markup after it. -/
theorem shownFor_escape {text rounds : List Char} (rest : List Char)
    (hrounds : text.length < rounds.length) :
    shownFor rounds (text.flatMap escape ++ '<' :: rest) = text := by
  induction text generalizing rounds with
  | nil =>
    obtain ⟨round, rounds, rfl⟩ := List.exists_cons_of_length_pos (Nat.zero_lt_of_lt hrounds)
    simp [shownFor]
  | cons c text ih =>
    obtain ⟨round, rounds, rfl⟩ := List.exists_cons_of_length_pos (Nat.zero_lt_of_lt hrounds)
    have ih := ih (Nat.lt_of_succ_lt_succ hrounds)
    rw [List.flatMap_cons, List.append_assoc, escape]
    cases hlookup : entities.lookup c with
    | some entity =>
      have hmem := Entries.mem_of_lookup hlookup
      obtain ⟨start, hentity⟩ := exists_entity_eq_cons _ hmem
      have hread := entity?_append _ hmem (text.flatMap escape ++ '<' :: rest)
      dsimp only at hentity hread ⊢
      rw [hentity, List.cons_append] at hread ⊢
      rw [shownFor, if_neg (by decide), hread]
      dsimp only
      rw [ih]
    | none =>
      have hmarkup : c ≠ '<' := by
        rintro rfl
        cases hlookup
      have hampersand : c ≠ '&' := by
        rintro rfl
        cases hlookup
      dsimp only
      rw [List.singleton_append, shownFor, if_neg hmarkup, entity?_eq_none hampersand]
      dsimp only
      rw [ih]

/-- **A page shows the text that it was made for.** -/
theorem shown?_document (text : String) : shown? (document text) = some text := by
  have hpage : (document text).toList =
      opening.toList ++ (text.toList.flatMap escape ++ closing.toList) := by
    simp [document]
  obtain ⟨markup, hclosing⟩ : ∃ markup, closing.toList = '<' :: markup := ⟨_, rfl⟩
  have hprefix : opening.toList.isPrefixOf (document text).toList = true := by
    rw [hpage]
    exact List.isPrefixOf_iff_prefix.mpr (List.prefix_append _ _)
  have hbody : (document text).toList.drop opening.length =
      text.toList.flatMap escape ++ '<' :: markup := by
    rw [hpage, hclosing, ← String.length_toList, List.drop_left]
  have hrounds : text.toList.length < (text.toList.flatMap escape ++ '<' :: markup).length := by
    have := length_le_flatMap_escape text.toList
    simp only [List.length_append, List.length_cons]
    omega
  simp only [shown?, hprefix, if_true, hbody]
  rw [shownFor_escape markup hrounds, String.ofList_toList]

/-- The verdict that an HTML page says. -/
def status? (page : String) : Option String :=
  (shown? page).bind Page.status?

end Html

theorem Comparison.status?_htmlReport (c : Comparison) :
    Html.status? (Command.htmlReport c) = some c.status := by
  rw [Html.status?, Command.htmlReport, Html.shown?_document, Option.bind_some, status?_render]

end Relocation
