import ReplayFlow.Proofs.Storage.FileTree
import ReplayFlow.Storage.Sink

/-!
Writing documents into a directory. A name has a slot in a directory when it
leads to a place right in it (`slot?`). A document with a slot is stored in it
and one without is refused, with the tree as it was (`Holds.writeInto`); a run
of writes stores what comes before the first document without a slot
(`Holds.writeAllInto`).
-/

namespace ReplayFlow.Storage

open FileTree (isTooLong Holds)

variable {t : FileTree} {directory : List String} {files : OrderedMap (List UInt8)}
  {output : Output} {name file : String}

/-- The file of a directory that a name leads to, if it leads to one. -/
def slot? (directory : List String) (name : String) : Option String :=
  (Path.resolve directory name).getLast?.filter fun file =>
    !Path.hasNull name && Path.resolve directory name = directory ++ [file] && !isTooLong file

theorem slot?_eq_some_iff : slot? directory name = some file ↔
    Path.hasNull name = false ∧ Path.resolve directory name = directory ++ [file] ∧
      isTooLong file = false := by
  rw [slot?, Option.filter_eq_some_iff]
  constructor
  · rintro ⟨_, h⟩
    simpa [and_assoc] using h
  · rintro ⟨hnull, hplace, hshort⟩
    simp [hnull, hplace, hshort]

theorem ne_points_of_slot (h : slot? directory name = some file) : file ≠ ".." := by
  rintro rfl
  have hplace := (slot?_eq_some_iff.1 h).2.1
  exact Path.not_mem_resolve _ _ (hplace ▸ List.mem_append_right _ (List.mem_singleton_self _))

/-- A name that is a component of its own is its own slot. -/
theorem slot?_of_isName (hdirectory : ∀ c ∈ directory, Path.IsName c) (h : Path.IsName name)
    (hshort : isTooLong name = false) : slot? directory name = some name :=
  slot?_eq_some_iff.2
    ⟨Path.hasNull_eq_false_iff.2 h.noNull, Path.resolve_of_name hdirectory h, hshort⟩

/-! ## One document -/

theorem makeDirectory_of_holds (h : t.Holds directory files) :
    t.makeDirectory directory = (t, .ok ()) := by
  rw [FileTree.makeDirectory, h.walk]

theorem writeInto_of_slot (h : t.Holds directory files)
    (hslot : slot? directory output.name = some file) :
    writeInto t directory output =
      (t.set (directory ++ [file]) (.file (documentBytes output.document)), .ok ()) := by
  obtain ⟨hnull, hplace, hshort⟩ := slot?_eq_some_iff.1 hslot
  have hjoin : Path.join (Path.absolute directory) output.name = .ok (directory ++ [file]) := by
    rw [Path.join_absolute h.isName hnull, hplace, if_pos (List.prefix_append ..)]
  have hwrite := h.write (ne_points_of_slot hslot) hshort (documentBytes output.document)
  simp only [writeInto, makeDirectory_of_holds h, hjoin, hwrite]

theorem exists_writeInto_error (h : t.Holds directory files)
    (hslot : slot? directory output.name = none) :
    ∃ fault, writeInto t directory output = (t, .error fault) := by
  simp only [writeInto, makeDirectory_of_holds h]
  cases hnull : Path.hasNull output.name with
  | true => exact ⟨.nullInPath, by simp only [Path.join_of_null hnull]⟩
  | false =>
    rw [Path.join_absolute h.isName hnull]
    by_cases hbelow : directory <+: Path.resolve directory output.name
    · obtain ⟨trouble, htrouble⟩ := h.exists_write_error (Path.not_mem_resolve _ _) hbelow
        (fun file hplace => by
          by_contra hshort
          have hsome := slot?_eq_some_iff.2 ⟨hnull, hplace, Bool.eq_false_iff.2 hshort⟩
          rw [hslot] at hsome
          cases hsome)
        (documentBytes output.document)
      rw [if_pos hbelow]
      exact ⟨.atPath trouble (Path.absolute (Path.resolve directory output.name)), by
        simp only [htrouble]⟩
    · rw [if_neg hbelow]
      exact ⟨_, rfl⟩

/-! ## Several documents -/

/-- The files of a directory after documents are written into it, up to the first that has no
slot. -/
def filesAfter (directory : List String) (files : OrderedMap (List UInt8)) :
    List Output → OrderedMap (List UInt8)
  | [] => files
  | output :: rest =>
    match slot? directory output.name with
    | some file => filesAfter directory (files.insert file (documentBytes output.document)) rest
    | none => files

theorem filesAfter_append (files : OrderedMap (List UInt8)) {before : List Output}
    (h : ∀ output ∈ before, (slot? directory output.name).isSome) (after : List Output) :
    filesAfter directory files (before ++ after) =
      filesAfter directory (filesAfter directory files before) after := by
  induction before generalizing files with
  | nil => rfl
  | cons output before ih =>
    obtain ⟨file, hfile⟩ := Option.isSome_iff_exists.1 (h output (List.mem_cons_self ..))
    simp only [List.cons_append, filesAfter, hfile]
    exact ih _ fun o ho => h o (List.mem_cons_of_mem _ ho)

/-- **What a run of writes leaves.** The directory holds the files of the documents before the
first that has no slot, and the run succeeds exactly if there is no such document. -/
theorem writeAllInto_holds (h : t.Holds directory files) (outputs : List Output) :
    (writeAllInto t directory outputs).1.Holds directory (filesAfter directory files outputs) ∧
      ((writeAllInto t directory outputs).2 = .ok () ↔
        ∀ output ∈ outputs, (slot? directory output.name).isSome) := by
  induction outputs generalizing t files with
  | nil => exact ⟨h, by simp [writeAllInto]⟩
  | cons output outputs ih =>
    cases hslot : slot? directory output.name with
    | none =>
      obtain ⟨fault, hfault⟩ := exists_writeInto_error h hslot
      simp only [writeAllInto, hfault, filesAfter, hslot]
      refine ⟨h, iff_of_false nofun fun hall => ?_⟩
      have hsome := hall output (List.mem_cons_self ..)
      rw [hslot] at hsome
      cases hsome
    | some file =>
      have hnext := ih (h.set file (documentBytes output.document))
      simp only [writeAllInto, writeInto_of_slot h hslot, filesAfter, hslot]
      refine ⟨hnext.1, hnext.2.trans ?_⟩
      simp [hslot]

theorem get?_filesAfter_insert {memory : OrderedMap Json} {outputs : List Output}
    (hslots : ∀ output ∈ outputs, slot? directory output.name = some output.name)
    (hfiles : ∀ name, files.get? name = (memory.get? name).map documentBytes) (name : String) :
    (filesAfter directory files outputs).get? name =
      ((writeAllTo memory outputs).get? name).map documentBytes := by
  induction outputs generalizing files memory with
  | nil => exact hfiles name
  | cons output outputs ih =>
    simp only [filesAfter, hslots output (List.mem_cons_self ..)]
    refine ih (fun o ho => hslots o (List.mem_cons_of_mem _ ho)) fun other => ?_
    rw [OrderedMap.get?_insert, OrderedMap.get?_insert]
    by_cases hname : output.name = other
    · simp [hname]
    · simp [hname, hfiles]

/-- Where every name is its own slot, a directory keeps what memory keeps. -/
theorem get?_filesAfter {outputs : List Output}
    (hslots : ∀ output ∈ outputs, slot? directory output.name = some output.name)
    (name : String) :
    (filesAfter directory ∅ outputs).get? name =
      ((writeAllTo ∅ outputs).get? name).map documentBytes :=
  get?_filesAfter_insert hslots (fun _ => rfl) name

end ReplayFlow.Storage
