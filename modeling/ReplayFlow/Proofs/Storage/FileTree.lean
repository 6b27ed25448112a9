import Mathlib.Data.List.Infix
import ReplayFlow.Proofs.Path
import ReplayFlow.Proofs.Data.OrderedMap
import ReplayFlow.Storage.FileTree

/-!
A directory of files in a tree. `Holds` says what stands in a directory that has
files and nothing else; a write to a file of it keeps that (`Holds.set`), and a
write anywhere else below it fails (`Holds.exists_write_error`).
-/

namespace ReplayFlow.FileTree

variable {t : FileTree} {reached path directory : List String} {file : String} {node : Node}

/-! ## Looking and walking -/

theorem lookup_cons (place path : List String) (node : Node) (nodes : List (List String × Node)) :
    ((place, node) :: nodes).lookup path = if path = place then some node else nodes.lookup path := by
  by_cases h : path = place
  · simp [h]
  · rw [List.lookup_cons, beq_eq_false_iff_ne.2 h, if_neg h]

theorem lookup_replace (nodes : List (List String × Node)) (path other : List String)
    (node : Node) :
    (nodes.map fun entry => if entry.1 = path then (path, node) else entry).lookup other =
      if other = path then (nodes.lookup path).map fun _ => node else nodes.lookup other := by
  induction nodes with
  | nil => simp
  | cons entry nodes ih =>
    obtain ⟨place, stood⟩ := entry
    rw [List.map_cons, lookup_cons, lookup_cons]
    by_cases hplace : place = path
    · rw [if_pos hplace, lookup_cons, ih, hplace]
      by_cases hother : other = path <;> simp [hother]
    · rw [if_neg hplace, lookup_cons, ih, if_neg (Ne.symm hplace)]
      by_cases hother : other = place <;> simp [hother, hplace]

theorem at?_set (t : FileTree) (hpath : path ≠ []) (node : Node) (other : List String) :
    (t.set path node).at? other = if other = path then some node else t.at? other := by
  by_cases hroot : other = []
  · subst hroot
    simp [at?, Ne.symm hpath]
  · simp only [at?, set, if_neg hroot]
    cases hstood : t.nodes.lookup path with
    | none =>
      by_cases hother : other = path <;>
        simp [hother, hstood, List.lookup_append, lookup_cons]
    | some stood => simp [lookup_replace, hstood]

theorem walkFrom_of_none (h : t.at? reached = none) (path : List String) :
    t.walkFrom reached path = .error .notFound := by
  cases path <;> simp [walkFrom, h]

theorem walkFrom_cons (h : t.at? reached = some .directory) {component : String}
    (hup : component ≠ "..") (hshort : isTooLong component = false) (path : List String) :
    t.walkFrom reached (component :: path) = t.walkFrom (reached ++ [component]) path := by
  simp [walkFrom, h, hup, hshort]

theorem walkFrom_of_way (hway : ∀ place, place <+: path → t.at? (reached ++ place) = some .directory)
    (hplain : ∀ c ∈ path, c ≠ ".." ∧ isTooLong c = false) (rest : List String) :
    t.walkFrom reached (path ++ rest) = t.walkFrom (reached ++ path) rest := by
  induction path generalizing reached with
  | nil => simp
  | cons c path ih =>
    have hc := hplain c (List.mem_cons_self ..)
    have hhere : t.at? reached = some .directory := by simpa using hway [] List.nil_prefix
    rw [List.cons_append, walkFrom_cons hhere hc.1 hc.2]
    have hlater : ∀ place, place <+: path →
        t.at? (reached ++ [c] ++ place) = some .directory := fun place hplace => by
      simpa using hway (c :: place) (List.prefix_cons_inj c |>.2 hplace)
    simpa using ih hlater fun d hd => hplain d (List.mem_cons_of_mem _ hd)

theorem pathSize_append (before after : List String) :
    pathSize (before ++ after) = pathSize before + pathSize after := by
  induction before with
  | nil => simp [pathSize]
  | cons c before ih => simp only [List.cons_append, pathSize, ih]; omega

/-- A part of a name is no longer than the name. -/
theorem isTooLong_of_infix {part name : String} (h : part.toList <:+: name.toList)
    (hname : isTooLong name = false) : isTooLong part = false := by
  obtain ⟨before, after, htext⟩ := h
  have hbytes : (Utf8.encode part.toList).length ≤ (Utf8.encode name.toList).length := by
    rw [← htext]
    simp only [Utf8.encode, List.flatMap_append, List.length_append]
    omega
  simp only [isTooLong, decide_eq_false_iff_not] at hname ⊢
  omega

/-! ## A directory of files -/

/-- A directory that is there, with room for a file name, and holds these files and nothing
else. -/
structure Holds (t : FileTree) (directory : List String) (files : OrderedMap (List UInt8)) :
    Prop where
  names : ∀ c ∈ directory, Path.IsName c ∧ isTooLong c = false
  room : pathSize directory + (componentLimit + 1) ≤ pathLimit
  way : ∀ place, place <+: directory → t.at? place = some .directory
  file : ∀ name, t.at? (directory ++ [name]) = (files.get? name).map .file
  below : ∀ name other rest, t.at? (directory ++ name :: other :: rest) = none

namespace Holds

variable {files : OrderedMap (List UInt8)}

theorem isName (h : t.Holds directory files) : ∀ c ∈ directory, Path.IsName c :=
  fun c hc => (h.names c hc).1

theorem here (h : t.Holds directory files) : t.at? directory = some .directory :=
  h.way directory (List.prefix_refl _)

theorem walk_append (h : t.Holds directory files) (rest : List String) :
    t.walk (directory ++ rest) =
      if pathLimit < pathSize (directory ++ rest) then .error .nameTooLong
      else t.walkFrom directory rest := by
  have hplain : ∀ c ∈ directory, c ≠ ".." ∧ isTooLong c = false :=
    fun c hc => ⟨(h.names c hc).1.ne_points, (h.names c hc).2⟩
  have hgo : t.walkFrom [] (directory ++ rest) = t.walkFrom directory rest :=
    walkFrom_of_way h.way hplain rest
  rw [FileTree.walk, hgo]

theorem walk (h : t.Holds directory files) : t.walk directory = .ok (directory, .directory) := by
  have hroom := h.room
  have hsmall : ¬ pathLimit < pathSize directory := by omega
  have hgo := h.walk_append []
  rw [List.append_nil, if_neg hsmall] at hgo
  simpa [walkFrom, h.here] using hgo

theorem walk_file (h : t.Holds directory files) (hup : file ≠ "..")
    (hshort : isTooLong file = false) :
    t.walk (directory ++ [file]) =
      match files.get? file with
      | some bytes => .ok (directory ++ [file], .file bytes)
      | none => .error .notFound := by
  have hsmall : ¬ pathLimit < pathSize (directory ++ [file]) := by
    have hroom := h.room
    have hlength : (Utf8.encode file.toList).length ≤ componentLimit := by
      simpa [isTooLong] using hshort
    simp only [pathSize_append, pathSize]
    omega
  rw [h.walk_append, if_neg hsmall, walkFrom_cons h.here hup hshort]
  simp only [walkFrom, h.file]
  cases files.get? file <;> rfl

theorem read (h : t.Holds directory files) (hup : file ≠ "..") (hshort : isTooLong file = false)
    {bytes : List UInt8} (hfile : files.get? file = some bytes) :
    t.read (directory ++ [file]) = .ok bytes := by
  rw [FileTree.read, h.walk_file hup hshort, hfile]

theorem write (h : t.Holds directory files) (hup : file ≠ "..") (hshort : isTooLong file = false)
    (bytes : List UInt8) :
    t.write (directory ++ [file]) bytes = .ok (t.set (directory ++ [file]) (.file bytes)) := by
  rw [FileTree.write, h.walk_file hup hshort]
  cases files.get? file with
  | none => simp only [List.dropLast_concat, h.walk, List.getLast?_concat]
  | some stored => rfl

/-- A file that is put into the directory is all that changes. -/
theorem set (h : t.Holds directory files) (file : String) (bytes : List UInt8) :
    (t.set (directory ++ [file]) (.file bytes)).Holds directory (files.insert file bytes) := by
  have hset := at?_set t (List.concat_ne_nil file directory) (.file bytes)
  refine ⟨h.names, h.room, fun place hplace => ?_, fun name => ?_, fun name other rest => ?_⟩
  · have hne : place ≠ directory ++ [file] := by
      rintro rfl
      exact absurd hplace.length_le (by simp)
    rw [hset, if_neg hne, h.way place hplace]
  · rw [hset, OrderedMap.get?_insert]
    by_cases hname : name = file
    · simp [hname]
    · simp [hname, Ne.symm hname, h.file]
  · rw [hset, if_neg (by simp), h.below]

theorem not_directory (h : t.Holds directory files) (name : String) :
    t.at? (directory ++ [name]) ≠ some .directory := by
  rw [h.file]
  cases files.get? name <;> simp

/-- No place below a name of the directory can be written. -/
theorem exists_write_error_below (h : t.Holds directory files) {name : String} (hup : name ≠ "..")
    (hshort : isTooLong name = false) (other : String) (rest : List String)
    (hsize : ¬ pathLimit < pathSize (directory ++ name :: other :: rest)) (bytes : List UInt8) :
    ∃ trouble, t.write (directory ++ name :: other :: rest) bytes = .error trouble := by
  have hgo (path : List String) :
      t.walkFrom directory (name :: path) = t.walkFrom (directory ++ [name]) path :=
    walkFrom_cons h.here hup hshort path
  cases hat : t.at? (directory ++ [name]) with
  | none =>
    -- neither the place nor the directory above it is there
    have hmissing (path : List String) :
        t.walkFrom directory (name :: path) = .error .notFound :=
      (hgo path).trans (walkFrom_of_none hat path)
    have habove : (directory ++ name :: other :: rest).dropLast =
        directory ++ name :: (other :: rest).dropLast := by
      rw [List.dropLast_append_of_ne_nil (by simp), List.dropLast_cons_of_ne_nil (by simp)]
    refine ⟨.notFound, ?_⟩
    rw [FileTree.write, h.walk_append, if_neg hsize, hmissing, habove, h.walk_append]
    split_ifs <;> simp [hmissing]
  | some node =>
    cases node with
    | directory => exact absurd hat (h.not_directory name)
    | file stored =>
      refine ⟨.notDirectory, ?_⟩
      rw [FileTree.write, h.walk_append, if_neg hsize, hgo, walkFrom, hat]

/-- A place below the directory that is no file of it cannot be written. -/
theorem exists_write_error (h : t.Holds directory files) (hup : ".." ∉ path)
    (hbelow : directory <+: path)
    (hslot : ∀ file, path = directory ++ [file] → isTooLong file = true) (bytes : List UInt8) :
    ∃ trouble, t.write path bytes = .error trouble := by
  -- the directory itself, a name in it that is too long, or a place below a name in it
  obtain ⟨rest, rfl⟩ := hbelow
  cases rest with
  | nil => exact ⟨.isDirectory, by simp [FileTree.write, h.walk]⟩
  | cons name rest =>
    have hname : name ≠ ".." := by
      rintro rfl
      simp at hup
    by_cases hsize : pathLimit < pathSize (directory ++ name :: rest)
    · exact ⟨.nameTooLong, by simp [FileTree.write, h.walk_append, hsize]⟩
    cases hlong : isTooLong name with
    | true =>
      exact ⟨.nameTooLong, by
        simp [FileTree.write, h.walk_append, hsize, walkFrom, h.here, hname, hlong]⟩
    | false =>
      cases rest with
      | nil => exact absurd (hslot name rfl) (by simp [hlong])
      | cons other rest => exact h.exists_write_error_below hname hlong other rest hsize bytes

end Holds

end ReplayFlow.FileTree
