import Relocation.Proofs.Disk.Change
import Relocation.Proofs.Ignore.Containment

/-!
# Writing a report once more

Where a report is already in its place, all directories on the way to it are there. To write it
again makes none of them, and only the file is put in its place.

* `Disk.makeFolders_of_folder` — there is nothing to make where a directory is,
* `Disk.writeReport_of_file` — **a report in the place of a file** is put there and nowhere else,
* `Disk.put_of_find?`, `Disk.put_put` — a file that is put where it is, and one put over another.
-/

namespace Relocation

/-- The text of a path above another one is not longer, or very short. -/
theorem Path.utf8ByteSize_text_parent (p : Path) :
    p.parent.text.utf8ByteSize ≤ max 2 p.text.utf8ByteSize := by
  obtain ⟨anchor, segments⟩ := p
  rcases List.eq_nil_or_concat segments with rfl | ⟨above, name, rfl⟩
  · exact le_max_right _ _
  rw [List.concat_eq_append]
  cases above with
  | nil =>
    refine le_max_of_le_left ?_
    change (text ⟨anchor, []⟩).utf8ByteSize ≤ 2
    cases anchor with
    | here => decide
    | root => decide
    | doubleRoot => decide
  | cons first rest =>
    refine le_max_of_le_right ?_
    obtain ⟨more, hmore⟩ : ∃ more, joined (first :: rest ++ [name]) =
        joined (first :: rest) ++ more := by
      refine ⟨.ofList ('/' :: name.toList), String.toList_inj.mp ?_⟩
      rw [String.toList_append, List.cons_append, toList_joined_cons, toList_joined_cons]
      simp
    have hparent : parent ⟨anchor, first :: rest ++ [name]⟩ = ⟨anchor, first :: rest⟩ := by
      simp only [parent, List.dropLast_concat]
    rw [hparent, text, text, if_neg (by simp), if_neg (by simp), hmore]
    simp only [String.utf8ByteSize_append]
    omega

namespace Disk

variable {d : Disk} {p : Path} {place spot : Location} {name : String} {names names' : List String}
  {e : Entry} {bytes : List UInt8}

/-! ## Putting once more -/

theorem put_of_find? (hspot : spot ≠ []) (h : d.find? spot = some e) : d.put spot e = d := by
  rw [find?, if_neg hspot] at h
  rw [put, Entries.put_of_lookup h]

theorem put_put (d : Disk) (spot : Location) (e e' : Entry) :
    (d.put spot e).put spot e' = d.put spot e' := by
  simp only [put, Entries.put_put]

/-! ## Paths that lead somewhere -/

theorem exists_follow_of_append {start : Location}
    (h : d.follow start (names ++ names') = .ok place) :
    ∃ middle, d.follow start names = .ok middle ∧ d.follow middle names' = .ok place := by
  induction names generalizing start with
  | nil => exact ⟨start, rfl, h⟩
  | cons name rest ih =>
    rw [List.cons_append] at h
    have hstart := find?_of_follow_cons h
    simp only [follow, hstart] at h ⊢
    split at h
    · next hup =>
      rw [if_pos hup]
      exact ih h
    · next hup =>
      rw [if_neg hup]
      split at h
      · cases h
      · next hshort =>
        rw [if_neg hshort]
        split at h
        · cases h
        · exact ih h

theorem locate_parent (h : d.locate p = .ok place) (hname : p.segments.getLast? = some name) :
    ∃ above, d.locate p.parent = .ok above ∧ d.follow above [name] = .ok place := by
  have hsegments : p.segments = p.parent.segments ++ [name] :=
    (List.dropLast_append_getLast? name hname).symm
  unfold locate at h ⊢
  split at h
  · cases h
  · next hshort =>
    rw [hsegments] at h
    obtain ⟨above, habove, hlast⟩ := exists_follow_of_append h
    have hsize := p.utf8ByteSize_text_parent
    rw [longestPath] at hshort ⊢
    rw [if_neg (by omega)]
    exact ⟨above, habove, hlast⟩

theorem find?_origin (hd : d.WellFormed) (p : Path) : d.find? (d.origin p) = some .folder := by
  rw [origin]
  split
  · exact hd.2.1
  · rfl

/-- What a name leads to is what is now where something of this name would be. -/
theorem targetIn_of_follow (hd : d.WellFormed) (h : d.follow spot [name] = .ok place)
    (hplace : d.find? place = some e) : d.targetIn spot name = .ok (place, some e) := by
  have hfolder := find?_of_follow_cons h
  simp only [follow, hfolder] at h
  simp only [targetIn, hfolder]
  split at h
  · next hup =>
    rw [if_pos hup]
    obtain rfl := Except.ok.inj h
    -- what `..` leads to is a directory, since something is in it
    have hdropLast : d.find? spot.dropLast = some .folder := by
      by_cases hnil : spot = []
      · rw [hnil]
        rfl
      · exact hd.find?_dropLast hfolder hnil
    rw [hdropLast] at hplace
    rw [← Option.some.inj hplace]
  · next hup =>
    rw [if_neg hup]
    split at h
    · cases h
    · next hshort =>
      rw [if_neg hshort]
      split at h
      · cases h
      · obtain rfl := Except.ok.inj h
        rw [hplace]

/-- What a path leads to is what is now where something of this path would be. -/
theorem target_of_locate (hd : d.WellFormed) (h : d.locate p = .ok place)
    (hplace : d.find? place = some e) : d.target p = .ok (place, some e) := by
  have hshort : ¬longestPath < p.text.utf8ByteSize := by
    intro hlong
    rw [locate, if_pos hlong] at h
    cases h
  unfold target
  cases hname : p.segments.getLast? with
  | none =>
    rw [List.getLast?_eq_none_iff] at hname
    rw [locate, if_neg hshort, hname] at h
    obtain rfl := Except.ok.inj h
    rw [find?_origin hd] at hplace
    simp only [hplace]
  | some name =>
    obtain ⟨above, habove, hlast⟩ := locate_parent h hname
    simp only [if_neg hshort, habove, targetIn_of_follow hd hlast hplace]

theorem hasNull_parent (h : hasNull p = false) : hasNull p.parent = false := by
  rw [hasNull, List.any_eq_false] at h ⊢
  exact fun name hname => h name (List.mem_of_mem_dropLast hname)

/-- There is nothing to make where a directory is. -/
theorem makeFolders_of_folder (hd : d.WellFormed) (hnull : hasNull p = false)
    (h : d.locate p = .ok place) (hplace : d.find? place = some .folder) :
    d.makeFolders p = (d, .ok ()) := by
  have htarget := target_of_locate hd h hplace
  have hmake : d.makeFolder p = .error (.refused .present p) := by
    rw [makeFolder, hnull, htarget]
    rfl
  have hpresent : d.madeOrPresent p (d.makeFolder p) = (d, .ok place) := by
    rw [hmake]
    simp only [madeOrPresent, toleratePresent, folder?_eq_some_iff.mpr ⟨hnull, h, hplace⟩]
  have hup : makeFoldersUp p.anchor longestChain p.segments.reverse d = (d, .ok place) := by
    cases hnames : p.segments.reverse with
    | nil =>
      rw [List.reverse_eq_nil_iff] at hnames
      obtain ⟨anchor, segments⟩ := p
      obtain rfl : segments = [] := hnames
      exact hpresent
    | cons name above =>
      have hp : (⟨p.anchor, (name :: above).reverse⟩ : Path) = p := by
        rw [← hnames, List.reverse_reverse]
      rw [longestChain, makeFoldersUp]
      simp only [hp, hmake] at hpresent ⊢
      exact hpresent
  rw [makeFolders, hup]
  rfl

/-- **A report in the place of a file** is put there, and nothing else is made. -/
theorem writeReport_of_file {old : List UInt8} (hd : d.WellFormed) (hnull : hasNull p = false)
    (h : d.locate p = .ok place) (hplace : d.find? place = some (.file old)) :
    d.writeReport p bytes = (d.put place (.file bytes), .ok ()) := by
  have htarget := target_of_locate hd h hplace
  have hparent : d.makeFolders p.parent = (d, .ok ()) := by
    cases hname : p.segments.getLast? with
    | none => simp [target, hname] at htarget
    | some name =>
      obtain ⟨above, habove, hlast⟩ := locate_parent h hname
      exact makeFolders_of_folder hd (hasNull_parent hnull) habove (find?_of_follow_cons hlast)
  have hwrite : d.writeFile p bytes = .ok (d.put place (.file bytes)) := by
    rw [writeFile, hnull, htarget]
    rfl
  rw [writeReport, hparent]
  simp only [hwrite]

/-! ## Reports in their places -/

/-- The file at a path, its place, and its bytes. -/
structure IsAt (d : Disk) (p : Path) (spot : Location) (bytes : List UInt8) : Prop where
  noNull : hasNull p = false
  locate : d.locate p = .ok spot
  ne_nil : spot ≠ []
  find? : d.find? spot = some (.file bytes)

variable {d' d'' : Disk} {q : Path} {spot' : Location} {old bytes' : List UInt8}

/-- A report that was written is at its path, in a tree that has grown to hold it. -/
theorem isAt_of_writeReport (h : d.writeReport p bytes = (d', .ok ())) :
    ∃ spot, d'.IsAt p spot bytes := by
  obtain ⟨hnull, d₁, spot, -, hspot, -, rfl, hlocate⟩ := writeReport_inv h
  exact ⟨spot, hnull, hlocate, hspot, by rw [find?_put hspot, if_pos rfl]⟩

theorem IsAt.put (h : d.IsAt p spot old) (h' : d.IsAt q spot' bytes') :
    (d.put spot' (.file bytes)).IsAt p spot (if spot = spot' then bytes else old) where
  noNull := h.noNull
  locate := (Grows.put h'.ne_nil (by simp [h'.find?]) _).locate_eq h.locate
  ne_nil := h.ne_nil
  find? := by
    rw [find?_put h'.ne_nil, h.find?]
    split
    · rfl
    · rfl

theorem IsAt.wellFormed_put (hd : d.WellFormed) (h : d.IsAt p spot old) :
    (d.put spot (.file bytes)).WellFormed :=
  hd.put h.ne_nil (hd.find?_dropLast h.find? h.ne_nil) (by simp [h.find?]) _

theorem IsAt.writeReport (hd : d.WellFormed) (h : d.IsAt p spot old) :
    d.writeReport p bytes = (d.put spot (.file bytes), .ok ()) :=
  writeReport_of_file hd h.noNull h.locate h.find?

/-- **A report that is written again** changes nothing. -/
theorem writeReport_again (hd : d'.WellFormed) (h : d.writeReport p bytes = (d', .ok ())) :
    d'.writeReport p bytes = (d', .ok ()) := by
  obtain ⟨spot, hat⟩ := isAt_of_writeReport h
  rw [hat.writeReport hd, put_of_find? hat.ne_nil hat.find?]

/-- **Two reports that are written again** change nothing in the end, even if they go to the same
place. -/
theorem writeReport_twice (hd : d''.WellFormed) (h : d.writeReport p bytes = (d', .ok ()))
    (h' : d'.writeReport q bytes' = (d'', .ok ())) :
    ∃ d₁, d''.writeReport p bytes = (d₁, .ok ()) ∧ d₁.writeReport q bytes' = (d'', .ok ()) := by
  obtain ⟨spot, hat⟩ := isAt_of_writeReport h
  obtain ⟨spot', hat'⟩ := isAt_of_writeReport h'
  -- what is at the place of the first report is its text, unless the second one went there too
  obtain ⟨old, hfirst, hold⟩ : ∃ old, d''.IsAt p spot old ∧ (spot ≠ spot' → old = bytes) := by
    obtain ⟨-, d₁, spot₁, hincludes, hspot, hfree, rfl, hlocate⟩ := writeReport_inv h'
    obtain rfl : spot₁ = spot' := Except.ok.inj (hlocate.symm.trans hat'.locate)
    have hgrows := hincludes.grows.trans (Grows.put hspot hfree (.file bytes'))
    have hfind : (d₁.put spot₁ (.file bytes')).find? spot =
        some (.file (if spot = spot₁ then bytes' else bytes)) := by
      rw [find?_put hspot, hincludes.2 _ _ hat.find?]
      split
      · rfl
      · rfl
    exact ⟨_, ⟨hat.noNull, hgrows.locate_eq hat.locate, hat.ne_nil, hfind⟩, fun hne => if_neg hne⟩
  refine ⟨_, hfirst.writeReport hd, ?_⟩
  rw [(hat'.put hfirst).writeReport (hfirst.wellFormed_put hd)]
  by_cases hspot : spot = spot'
  · rw [hspot, put_put, put_of_find? hat'.ne_nil hat'.find?]
  · obtain rfl := hold hspot
    rw [put_of_find? hfirst.ne_nil hfirst.find?, put_of_find? hat'.ne_nil hat'.find?]

end Disk

end Relocation
