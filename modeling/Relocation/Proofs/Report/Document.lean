import Relocation.Proofs.Report.Grammar
import Relocation.Report.Payload

/-!
# The JSON report in a file

What the document of a report denotes. Its form is one of those that the grammar allows, in ASCII
throughout, with the members of every object in ascending order of their keys.

* `Json.denotes_document` — a document denotes its value with sorted members,
* `Json.isAscii_document` — it is in ASCII,
* `Json.allKeys_sorted` — sorting puts distinct keys in strictly ascending order,
* `Json.same_sorted` — and changes nothing but their order,
* `Comparison.read?_document` — **the document of a report is read back as its content**.
-/

namespace Relocation

namespace Json

/-! ## Texts -/

theorem hexValue?_hexDigit {n : Nat} (hn : n < 16) : hexValue? (Text.hexDigit n) = some n := by
  revert n
  decide

theorem exists_of_mem_hexDigits {width n : Nat} {c : Char} (h : c ∈ Text.hexDigits width n) :
    ∃ m < 16, c = Text.hexDigit m := by
  induction width generalizing n with
  | zero => cases h
  | succ width ih =>
    rcases List.mem_append.mp h with h | h
    · exact ih h
    · exact ⟨n % 16, Nat.mod_lt _ (by decide), List.mem_singleton.mp h⟩

theorem hexNumber?_hexDigits {n : Nat} (hn : n < 0x10000) :
    ∃ d₁ d₂ d₃ d₄, Text.hexDigits 4 n = [d₁, d₂, d₃, d₄] ∧
      hexNumber? [d₁, d₂, d₃, d₄] = some n := by
  have hlast (m : Nat) : hexValue? (Text.hexDigit (m % 16)) = some (m % 16) :=
    hexValue?_hexDigit (Nat.mod_lt _ (by decide))
  have hnumber : 16 * (16 * (16 * (16 * 0 + n / 16 / 16 / 16 % 16) + n / 16 / 16 % 16) +
      n / 16 % 16) + n % 16 = n := by omega
  refine ⟨_, _, _, _, rfl, ?_⟩
  simp only [hexNumber?, List.foldlM_cons, List.foldlM_nil, hlast, Option.map_some,
    Option.bind_eq_bind, Option.bind_some, hnumber]
  rfl

theorem content_escapeUnit {n : Nat} (hn : n < 0x10000) : Content (escapeUnit n) [n] := by
  obtain ⟨d₁, d₂, d₃, d₄, hdigits, hnumber⟩ := hexNumber?_hexDigits hn
  rw [escapeUnit, hdigits]
  exact .unit hnumber .nil

theorem content_escapeCode (c : Char) : Content (escapeCode c.toNat) (units c) := by
  have hvalid := c.valid
  change c.toNat < 0xd800 ∨ 0xdfff < c.toNat ∧ c.toNat < 0x110000 at hvalid
  unfold escapeCode units
  split
  · next hsmall => exact content_escapeUnit hsmall
  · exact (content_escapeUnit (by omega)).append (content_escapeUnit (by omega))

theorem content_short {e c : Char} (hc : shortEscapes.lookup e = some c) :
    Content ['\\', e] (units c) := by
  rw [← List.append_nil (units c)]
  exact .short hc .nil

/-- A character is written as itself or as an escape for it. -/
theorem content_escape (c : Char) : Content (escape c) (units c) := by
  unfold escape
  split
  iterate 7 exact content_short rfl
  · next hquote hslash _ _ _ _ _ =>
    split
    · next hprintable =>
      have hplain : isPlain c = true := by
        simpa [isPlain, hprintable.1] using And.intro hquote hslash
      rw [← List.append_nil (units c)]
      exact .plain hplain .nil
    · exact content_escapeCode c

theorem content_flatMap_escape (text : List Char) :
    Content (text.flatMap escape) (text.flatMap units) := by
  induction text with
  | nil => exact .nil
  | cons c text ih => exact (content_escape c).append ih

theorem spells_quote (s : String) : Spells (quote s) (.text s) :=
  .text (content_flatMap_escape s.toList)

/-! ## Numbers -/

/-- The digits of a number start with zero for zero only. -/
theorem toDigits_eq_zero {n : Nat} (h : (Nat.toDigits 10 n).head? = some '0') :
    Nat.toDigits 10 n = ['0'] := by
  induction n using Nat.strongRecOn with
  | ind n ih =>
    rw [Nat.toDigits_eq_if (by decide)] at h ⊢
    split
    · next hsmall =>
      rw [if_pos hsmall] at h
      exact congrArg (fun c => [c]) (Option.some.inj h)
    · next hlarge =>
      rw [if_neg hlarge, List.head?_append_of_ne_nil _ Nat.toDigits_ne_nil] at h
      have hzero := ih (n / 10) (by omega) h
      have hvalue := Nat.ofDigitChars_ten_toDigits (n := n / 10)
      rw [hzero] at hvalue
      have : n / 10 = 0 := hvalue.symm
      omega

theorem isNumeral_toDigits (n : Nat) : IsNumeral (Nat.toDigits 10 n) n where
  ne_nil := Nat.toDigits_ne_nil
  isDigit := fun _ hc => Nat.isDigit_of_mem_toDigits (by decide) (by decide) hc
  no_zero_ahead := toDigits_eq_zero
  value := Nat.ofDigitChars_ten_toDigits

theorem spells_number (n : Int) : Spells (toString n).toList (.number n) := by
  cases n with
  | ofNat n =>
    change Spells (Nat.repr n).toList _
    rw [Nat.toList_repr]
    exact .natural (isNumeral_toDigits n)
  | negSucc n =>
    change Spells ("-" ++ Nat.repr (n + 1)).toList _
    rw [String.toList_append, Nat.toList_repr]
    exact .negative (isNumeral_toDigits (n + 1))

/-! ## Documents -/

theorem blank_newline (level : Nat) : Blank (newline level) := by
  intro c hc
  rcases List.mem_cons.mp hc with rfl | hc
  · rfl
  · rw [List.eq_of_mem_replicate hc]
    rfl

theorem blank_nil : Blank [] :=
  nofun

mutual

/-- **A value is written as the grammar allows.** -/
theorem spells_write (level : Nat) : (j : Json) → Spells (j.write level) j
  | text s => spells_quote s
  | number n => spells_number n
  | list [] => .noItems blank_nil
  | list (item :: rest) => by
    have hitems := spellsItems_write (level + 1) (blank_newline level) rest
      (spells_write (level + 1) item)
    simpa [write] using Spells.items hitems
  | object [] => .noMembers blank_nil
  | object ((key, value) :: rest) => by
    have hmembers := spellsMembers_write (level + 1) (blank_newline level) rest key
      (spells_write (level + 1) value)
    simpa [write, quote] using Spells.members hmembers

/-- The items of a list, the first of which has been written. -/
theorem spellsItems_write (level : Nat) {w : List Char} (hw : Blank w) :
    (rest : List Json) → {t : List Char} → {item : Json} → Spells t item →
      SpellsItems (newline level ++ (t ++ (writeItems level rest ++ w))) (item :: rest)
  | [], _, _, h => .last (blank_newline level) h hw
  | next :: rest, _, _, h => by
    have hrest := spellsItems_write level hw rest (spells_write level next)
    simpa [writeItems] using SpellsItems.more (blank_newline level) h blank_nil hrest

/-- The members of an object, the value of the first of which has been written. -/
theorem spellsMembers_write (level : Nat) {w : List Char} (hw : Blank w) :
    (rest : List (String × Json)) → (key : String) → {t : List Char} → {value : Json} →
      Spells t value →
      SpellsMembers
        (newline level ++ (quote key ++ ':' :: ' ' :: (t ++ (writeMembers level rest ++ w))))
        ((key, value) :: rest)
  | [], key, _, _, h => by
    have hblank : Blank [' '] := by simp [Blank, isSpace]
    simpa [quote, writeMembers] using SpellsMembers.last (blank_newline level)
      (content_flatMap_escape key.toList) blank_nil hblank h hw
  | (key', value') :: rest, key, _, _, h => by
    have hblank : Blank [' '] := by simp [Blank, isSpace]
    have hrest := spellsMembers_write level hw rest key' (spells_write level value')
    simpa [quote, writeMembers] using SpellsMembers.more (blank_newline level)
      (content_flatMap_escape key.toList) blank_nil hblank h blank_nil hrest

end

/-- **A document denotes its value**, with the members of every object in order. -/
theorem denotes_document (j : Json) : Denotes j.document.toList j.sorted := by
  refine ⟨[], _, [], blank_nil, spells_write 0 j.sorted, blank_nil, ?_⟩
  rw [document, String.toList_ofList, List.append_nil, List.nil_append]

/-! ## Characters -/

/-- Nothing but ASCII characters. -/
def IsAscii (t : List Char) : Prop :=
  ∀ c ∈ t, c.toNat < 128

@[simp] theorem isAscii_nil : IsAscii [] :=
  nofun

@[simp] theorem isAscii_cons_iff {c : Char} {t : List Char} :
    IsAscii (c :: t) ↔ c.toNat < 128 ∧ IsAscii t :=
  List.forall_mem_cons

@[simp] theorem isAscii_append_iff {t t' : List Char} :
    IsAscii (t ++ t') ↔ IsAscii t ∧ IsAscii t' :=
  List.forall_mem_append

theorem isAscii_hexDigits (width n : Nat) : IsAscii (Text.hexDigits width n) := by
  have hdigit : ∀ m < 16, (Text.hexDigit m).toNat < 128 := by decide
  intro c hc
  obtain ⟨m, hm, rfl⟩ := exists_of_mem_hexDigits hc
  exact hdigit m hm

theorem isAscii_escapeUnit (unit : Nat) : IsAscii (escapeUnit unit) := by
  simp [escapeUnit, isAscii_hexDigits]

theorem isAscii_escapeCode (code : Nat) : IsAscii (escapeCode code) := by
  unfold escapeCode
  split <;> simp [isAscii_escapeUnit]

theorem isAscii_escape (c : Char) : IsAscii (escape c) := by
  unfold escape
  split
  iterate 7 simp
  split
  · next hprintable =>
    have hle : c.toNat ≤ '~'.toNat := hprintable.2
    have htilde : '~'.toNat < 128 := by decide
    exact isAscii_cons_iff.mpr ⟨Nat.lt_of_le_of_lt hle htilde, isAscii_nil⟩
  · exact isAscii_escapeCode _

theorem isAscii_quote (s : String) : IsAscii (quote s) := by
  have hcontent : IsAscii (s.toList.flatMap escape) := by
    intro c hc
    obtain ⟨d, -, hc⟩ := List.mem_flatMap.mp hc
    exact isAscii_escape d c hc
  simpa [quote] using hcontent

theorem isAscii_number (n : Int) : IsAscii (toString n).toList := by
  have hdigits : ∀ n : Nat, IsAscii (Nat.repr n).toList := by
    intro n c hc
    rw [Nat.toList_repr] at hc
    have hdigit := Nat.isDigit_of_mem_toDigits (by decide) (by decide) hc
    obtain ⟨-, hle⟩ : 48 ≤ c.val ∧ c.val ≤ 57 := by simpa [Char.isDigit] using hdigit
    have hle : c.toNat ≤ 57 := hle
    omega
  cases n with
  | ofNat n => exact hdigits n
  | negSucc n =>
    change IsAscii ("-" ++ Nat.repr (n + 1)).toList
    simpa using hdigits (n + 1)

theorem isAscii_newline (level : Nat) : IsAscii (newline level) := by
  refine isAscii_cons_iff.mpr ⟨by decide, fun c hc => ?_⟩
  rw [List.eq_of_mem_replicate hc]
  decide

mutual

/-- A value is written in ASCII. -/
theorem isAscii_write (level : Nat) : (j : Json) → IsAscii (j.write level)
  | text s => isAscii_quote s
  | number n => isAscii_number n
  | list [] => by simp [write]
  | list (item :: rest) => by
    simp [write, isAscii_newline, isAscii_write (level + 1) item,
      isAscii_writeItems (level + 1) rest]
  | object [] => by simp [write]
  | object ((key, value) :: rest) => by
    simp [write, isAscii_newline, isAscii_quote, isAscii_write (level + 1) value,
      isAscii_writeMembers (level + 1) rest]

theorem isAscii_writeItems (level : Nat) : (items : List Json) → IsAscii (writeItems level items)
  | [] => isAscii_nil
  | item :: rest => by
    simp [writeItems, isAscii_newline, isAscii_write level item, isAscii_writeItems level rest]

theorem isAscii_writeMembers (level : Nat) :
    (members : List (String × Json)) → IsAscii (writeMembers level members)
  | [] => isAscii_nil
  | (key, value) :: rest => by
    simp [writeMembers, isAscii_newline, isAscii_quote, isAscii_write level value,
      isAscii_writeMembers level rest]

end

theorem isAscii_document (j : Json) : IsAscii j.document.toList := by
  rw [document, String.toList_ofList]
  exact isAscii_write 0 _

/-! ## Keys -/

mutual

/-- A condition holds of the keys of every object within a value. -/
def AllKeys (p : List String → Prop) : Json → Prop
  | text _ => True
  | number _ => True
  | list items => AllKeysItems p items
  | object members => p (members.map Prod.fst) ∧ AllKeysMembers p members

/-- The same within the items of a list. -/
def AllKeysItems (p : List String → Prop) : List Json → Prop
  | [] => True
  | item :: rest => item.AllKeys p ∧ AllKeysItems p rest

/-- The same within the values of an object. -/
def AllKeysMembers (p : List String → Prop) : List (String × Json) → Prop
  | [] => True
  | (_, value) :: rest => value.AllKeys p ∧ AllKeysMembers p rest

end

theorem allKeysItems_iff {p : List String → Prop} {items : List Json} :
    AllKeysItems p items ↔ ∀ item ∈ items, item.AllKeys p := by
  induction items with
  | nil => simp [AllKeysItems]
  | cons item rest ih => rw [AllKeysItems, ih, List.forall_mem_cons]

theorem allKeysMembers_iff {p : List String → Prop} {members : List (String × Json)} :
    AllKeysMembers p members ↔ ∀ member ∈ members, member.2.AllKeys p := by
  induction members with
  | nil => simp [AllKeysMembers]
  | cons member rest ih => rw [AllKeysMembers, ih, List.forall_mem_cons]

theorem keys_sortedMembers (members : List (String × Json)) :
    (sortedMembers members).map Prod.fst = members.map Prod.fst := by
  induction members with
  | nil => rfl
  | cons member rest ih => rw [sortedMembers, List.map_cons, List.map_cons, ih]

/-- Members with distinct keys are in strictly ascending order once they are sorted. -/
theorem pairwise_keys_mergeSort {members : List (String × Json)}
    (hnodup : (members.map Prod.fst).Nodup) :
    ((members.mergeSort fun a b => a.1 ≤ b.1).map Prod.fst).Pairwise (· < ·) := by
  have htrans (a b c : String × Json) (hab : decide (a.1 ≤ b.1) = true)
      (hbc : decide (b.1 ≤ c.1) = true) : decide (a.1 ≤ c.1) = true :=
    decide_eq_true (String.le_trans (of_decide_eq_true hab) (of_decide_eq_true hbc))
  have htotal (a b : String × Json) : (decide (a.1 ≤ b.1) || decide (b.1 ≤ a.1)) = true := by
    simpa using String.le_total a.1 b.1
  have hsorted := List.pairwise_mergeSort htrans htotal members
  have hdistinct : (members.mergeSort fun a b => a.1 ≤ b.1).Pairwise fun a b => a.1 ≠ b.1 :=
    List.pairwise_map.mp (((List.mergeSort_perm _ _).map Prod.fst).nodup_iff.mpr hnodup)
  refine List.pairwise_map.mpr ((hsorted.and hdistinct).imp ?_)
  rintro a b ⟨hle, hne⟩
  exact String.not_le.mp fun hge => hne (String.le_antisymm (of_decide_eq_true hle) hge)

mutual

/-- **Sorting puts distinct keys in strictly ascending order.** -/
theorem allKeys_sorted :
    (j : Json) → j.AllKeys List.Nodup → j.sorted.AllKeys (·.Pairwise (· < ·))
  | text _, _ => trivial
  | number _, _ => trivial
  | list items, h => allKeysItems_sorted items h
  | object members, h => by
    refine ⟨pairwise_keys_mergeSort ?_, allKeysMembers_iff.mpr fun member hmember => ?_⟩
    · rw [keys_sortedMembers]
      exact h.1
    · rw [List.mem_mergeSort] at hmember
      exact allKeysMembers_iff.mp (allKeysMembers_sorted members h.2) member hmember

theorem allKeysItems_sorted : (items : List Json) → AllKeysItems List.Nodup items →
    AllKeysItems (·.Pairwise (· < ·)) (sortedItems items)
  | [], _ => trivial
  | item :: rest, h => ⟨allKeys_sorted item h.1, allKeysItems_sorted rest h.2⟩

theorem allKeysMembers_sorted :
    (members : List (String × Json)) → AllKeysMembers List.Nodup members →
      AllKeysMembers (·.Pairwise (· < ·)) (sortedMembers members)
  | [], _ => trivial
  | (_, value) :: rest, h => ⟨allKeys_sorted value h.1, allKeysMembers_sorted rest h.2⟩

end

/-! ## Equal values -/

mutual

/-- Two values are the same apart from the order in which objects give their members. -/
inductive Same : Json → Json → Prop
  | text (s : String) : Same (.text s) (.text s)
  | number (n : Int) : Same (.number n) (.number n)
  | list {items items' : List Json} (h : SameItems items items') :
      Same (.list items) (.list items')
  | object {members members' members'' : List (String × Json)} (hperm : members.Perm members')
      (h : SameMembers members' members'') : Same (.object members) (.object members'')

/-- The same for items, one by one. -/
inductive SameItems : List Json → List Json → Prop
  | nil : SameItems [] []
  | cons {item item' : Json} {rest rest' : List Json} (h : Same item item')
      (hrest : SameItems rest rest') : SameItems (item :: rest) (item' :: rest')

/-- The same for members, one by one: the keys are equal. -/
inductive SameMembers : List (String × Json) → List (String × Json) → Prop
  | nil : SameMembers [] []
  | cons {key : String} {value value' : Json} {rest rest' : List (String × Json)}
      (h : Same value value') (hrest : SameMembers rest rest') :
      SameMembers ((key, value) :: rest) ((key, value') :: rest')

end

mutual

/-- **Sorting changes nothing but the order of members.** -/
theorem same_sorted : (j : Json) → Same j.sorted j
  | text s => .text s
  | number n => .number n
  | list items => .list (sameItems_sorted items)
  | object members => .object (List.mergeSort_perm _ _) (sameMembers_sorted members)

theorem sameItems_sorted : (items : List Json) → SameItems (sortedItems items) items
  | [] => .nil
  | item :: rest => .cons (same_sorted item) (sameItems_sorted rest)

theorem sameMembers_sorted :
    (members : List (String × Json)) → SameMembers (sortedMembers members) members
  | [] => .nil
  | (_, value) :: rest => .cons (same_sorted value) (sameMembers_sorted rest)

end

end Json

/-! ## The report of a comparison -/

theorem Signature.allKeys_toJson (s : Signature) : s.toJson.AllKeys List.Nodup := by
  refine ⟨?_, trivial, trivial, trivial, trivial⟩
  change List.Nodup ["name", "declarator", "line"]
  decide

namespace Comparison

/-- No object of a report has a key twice. -/
theorem allKeys_toJson (c : Comparison) : (Payload.ofComparison c).toJson.AllKeys List.Nodup := by
  have htexts (messages : List String) : (Json.list (messages.map .text)).AllKeys List.Nodup := by
    refine Json.allKeysItems_iff.mpr ?_
    simp [Json.AllKeys]
  have hsignatures (found : List Signature) :
      (Json.list (found.map Signature.toJson)).AllKeys List.Nodup := by
    refine Json.allKeysItems_iff.mpr ?_
    simpa using fun s _ => s.allKeys_toJson
  have hcounts : List.Nodup
      ["removed_methods", "relocated_methods", "remaining_methods", "new_files_analyzed"] := by
    decide
  have hkeys : List.Nodup ["status", "errors", "warnings", "summary", "removed_methods",
      "remaining_methods", "new_file_methods"] := by
    decide
  refine ⟨hkeys, trivial, htexts _, htexts _,
    ⟨hcounts, trivial, trivial, trivial, trivial, trivial⟩, hsignatures _, hsignatures _,
    ⟨?_, Json.allKeysMembers_iff.mpr ?_⟩, trivial⟩
  · -- the names of a map are distinct
    rw [List.map_map]
    exact c.newFiles.nodup
  · rintro _ hmember
    obtain ⟨⟨name, found⟩, -, rfl⟩ := List.mem_map.mp hmember
    exact hsignatures found

/-- **The document of a report is read back as its content.** It is in ASCII throughout, it denotes
one value only, which is the content of the report, and it gives the keys of every object once and
in ascending order. -/
theorem read?_document (c : Comparison) :
    Json.IsAscii c.document.toList ∧
      ∃ j, Json.read? c.document.toList = some j ∧
        (∀ j', Json.Denotes c.document.toList j' ↔ j' = j) ∧
        j.Same (Payload.ofComparison c).toJson ∧ j.AllKeys (·.Pairwise (· < ·)) := by
  have hdenotes := Json.denotes_document (Payload.ofComparison c).toJson
  refine ⟨Json.isAscii_document _, _, Json.read?_eq_some_of_denotes hdenotes, fun j' => ⟨?_, ?_⟩,
    Json.same_sorted _, Json.allKeys_sorted _ c.allKeys_toJson⟩
  · exact fun h => h.unique hdenotes
  · rintro rfl
    exact hdenotes

end Comparison

end Relocation
