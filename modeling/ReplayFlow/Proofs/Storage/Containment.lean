import ReplayFlow.Proofs.Storage.Walk
import ReplayFlow.Storage.Sink
import ReplayFlow.Storage.Source

/-!
Reading and writing stay in their directory. What is read by a name in a
directory is told by the directory and the way to it (`readInside_congr`), and a
write changes one place at or below the directory, besides making the directory
itself (`at?_writeInto`, `staysBelow_writeInto`).
-/

namespace ReplayFlow

/-! ## Names beside a directory -/

/-- A place beside a directory is not below it, though its component starts with the one of the
directory. -/
theorem Path.not_below_of_longer {parent below : List String} {last suffix : String}
    (hsuffix : suffix ≠ "") : ¬ parent ++ [last] <+: parent ++ (last ++ suffix) :: below := by
  intro h
  rw [List.prefix_append_right_inj, List.cons_prefix_cons] at h
  have hlength : last.toList.length = (last ++ suffix).toList.length := by rw [← h.1]
  have hempty : suffix.toList = [] := by
    rw [← List.length_eq_zero_iff]
    simp only [String.toList_append, List.length_append] at hlength
    omega
  exact hsuffix (String.toList_inj.1 hempty)

example : Path.join "/srv/flows" "a//./../../flows-old/b.json" =
    .error (.outside "/srv/flows" "a//./../../flows-old/b.json") := by rfl

namespace Storage

open FileTree (KeptOrMade)

variable {t t' : FileTree} {root directory path : List String} {name : String}

/-- Trees that hold the same at a directory, on the way to it and below it. -/
def AgreeAround (directory : List String) (t t' : FileTree) : Prop :=
  ∀ place, place <+: directory ∨ directory <+: place → t.at? place = t'.at? place

/-- What stands outside a directory is kept, but for directories that are made on the way to it. -/
def StaysBelow (directory : List String) (t t' : FileTree) : Prop :=
  ∀ place, ¬ directory <+: place → KeptOrMade t t' directory place

/-! ## Reading -/

theorem AgreeAround.walk (h : AgreeAround directory t t') (hup : ".." ∉ path)
    (hbelow : directory <+: path) : t.walk path = t'.walk path :=
  FileTree.walk_congr hup fun more hmore => h more (List.prefix_or_prefix_of_prefix hmore hbelow)

theorem AgreeAround.read (h : AgreeAround directory t t') (hup : ".." ∉ path)
    (hbelow : directory <+: path) : t.read path = t'.read path := by
  rw [FileTree.read, FileTree.read, h.walk hup hbelow]

theorem AgreeAround.exists? (h : AgreeAround directory t t') (hup : ".." ∉ path)
    (hbelow : directory <+: path) : t.exists? path = t'.exists? path := by
  rw [FileTree.exists?, FileTree.exists?, h.walk hup hbelow]

/-- A file is read at the place its name leads to, at or below its directory. -/
theorem at?_of_readInside (hdirectory : ∀ c ∈ directory, Path.IsName c) {bytes : List UInt8}
    (h : readInside t directory name = .ok bytes) :
    directory <+: Path.resolve directory name ∧
      t.at? (Path.resolve directory name) = some (.file bytes) := by
  unfold readInside at h
  cases hjoin : Path.join (Path.absolute directory) name with
  | error fault =>
    rw [hjoin] at h
    cases h
  | ok place =>
    obtain ⟨_, rfl, hbelow⟩ := (Path.join_eq_ok_iff hdirectory).1 hjoin
    refine ⟨hbelow, ?_⟩
    have hread : atPath (Path.resolve directory name) (t.read (Path.resolve directory name)) =
        .ok bytes := by
      rwa [hjoin] at h
    unfold FileTree.read at hread
    split at hread
    · rename_i place stored hwalk
      obtain ⟨-, -, -, -, hat⟩ :=
        (FileTree.walk_eq_ok_iff (Path.not_mem_resolve directory name)).1 hwalk
      obtain rfl := Except.ok.inj hread
      exact hat
    · cases hread
    · cases hread

/-- What is read by a name in a directory is told by the directory and the way to it. -/
theorem readInside_congr (hdirectory : ∀ c ∈ directory, Path.IsName c)
    (h : AgreeAround directory t t') (name : String) :
    readInside t directory name = readInside t' directory name := by
  unfold readInside
  cases hjoin : Path.join (Path.absolute directory) name with
  | error fault => rfl
  | ok place =>
    obtain ⟨_, rfl, hbelow⟩ := (Path.join_eq_ok_iff hdirectory).1 hjoin
    show atPath _ (t.read _) = atPath _ (t'.read _)
    rw [h.read (Path.not_mem_resolve directory name) hbelow]

/-! ## Writing -/

theorem StaysBelow.refl (directory : List String) (t : FileTree) : StaysBelow directory t t :=
  fun _ _ => .refl _ _ _

theorem StaysBelow.trans {t'' : FileTree} (h : StaysBelow directory t t')
    (hnext : StaysBelow directory t' t'') : StaysBelow directory t t'' :=
  fun place hout => (h place hout).trans (hnext place hout)

theorem StaysBelow.mono (h : StaysBelow directory t t') (hroot : root <+: directory) :
    StaysBelow root t t' := by
  intro place hout
  have hdirectory : ¬ directory <+: place := fun hbelow => hout (hroot.trans hbelow)
  refine (h place hdirectory).imp_right fun ⟨hplace, hmade⟩ => ⟨?_, hmade⟩
  exact (List.prefix_or_prefix_of_prefix hplace hroot).resolve_right hout

/-- **What a write changes**: the place its name leads to, and nothing else besides making the
directory. -/
theorem at?_writeInto (hdirectory : ∀ c ∈ directory, Path.IsName c) (t : FileTree)
    (output : Output) (place : List String) :
    KeptOrMade t (writeInto t directory output).1 directory place ∨
      place = Path.resolve directory output.name ∧ directory <+: place ∧
        (writeInto t directory output).1.at? place = some (.file (documentBytes output.document)) := by
  have hway := t.makeDirectory_keptOrMade directory place
  unfold writeInto
  split
  · rename_i made trouble long hmade
    rw [hmade] at hway
    exact .inl hway
  · rename_i made hmade
    rw [hmade] at hway
    split
    · exact .inl hway
    · rename_i path hjoin
      obtain ⟨_, rfl, hbelow⟩ := (Path.join_eq_ok_iff hdirectory).1 hjoin
      split
      · rename_i written hwrite
        obtain ⟨hpath, rfl, _⟩ := FileTree.write_eq_ok (Path.not_mem_resolve _ _) hwrite
        rw [KeptOrMade, FileTree.at?_set made hpath]
        by_cases hplace : place = Path.resolve directory output.name
        · exact .inr ⟨hplace, hplace ▸ hbelow, if_pos hplace⟩
        · rw [if_neg hplace]
          exact .inl hway
      · exact .inl hway

/-- A document that is written stands where its name leads to. -/
theorem writeInto_eq_ok (hdirectory : ∀ c ∈ directory, Path.IsName c) {output : Output}
    (h : writeInto t directory output = (t', .ok ())) :
    Path.join (Path.absolute directory) output.name = .ok (Path.resolve directory output.name) ∧
      t'.walk (Path.resolve directory output.name) =
        .ok (Path.resolve directory output.name, .file (documentBytes output.document)) := by
  unfold writeInto at h
  split at h
  · cases h
  · split at h
    · cases h
    · rename_i path hjoin
      obtain ⟨_, rfl, _⟩ := (Path.join_eq_ok_iff hdirectory).1 hjoin
      split at h
      · rename_i written hwrite
        obtain rfl : written = t' := (Prod.mk.inj h).1
        exact ⟨hjoin, (FileTree.write_eq_ok (Path.not_mem_resolve _ _) hwrite).2.2⟩
      · cases h

theorem readInside_of_writeInto (hdirectory : ∀ c ∈ directory, Path.IsName c) {output : Output}
    (h : writeInto t directory output = (t', .ok ())) :
    readInside t' directory output.name = .ok (documentBytes output.document) := by
  obtain ⟨hjoin, hwalk⟩ := writeInto_eq_ok hdirectory h
  have hread : t'.read (Path.resolve directory output.name) =
      .ok (documentBytes output.document) := by rw [FileTree.read, hwalk]
  rw [readInside, hjoin]
  show atPath _ (t'.read _) = _
  rw [hread]
  rfl

/-- A write leaves the walks that do not come past its place. -/
theorem walk_writeInto_of_not_below (hdirectory : ∀ c ∈ directory, Path.IsName c)
    (output : Output) {node : Node} (hup : ".." ∉ path)
    (hplace : ¬ Path.resolve directory output.name <+: path)
    (h : t.walk path = .ok (path, node)) :
    (writeInto t directory output).1.walk path = .ok (path, node) := by
  have hkept : ∀ place stood, place <+: path → t.at? place = some stood →
      (writeInto t directory output).1.at? place = some stood := by
    intro place stood hprefix hat
    obtain (hkept | ⟨_, hnone, _⟩) | ⟨rfl, _⟩ := at?_writeInto hdirectory t output place
    · rw [hkept, hat]
    · rw [hat] at hnone
      cases hnone
    · exact absurd hprefix hplace
  obtain ⟨-, hsize, hshort, hway, hat⟩ := (FileTree.walk_eq_ok_iff hup).1 h
  exact (FileTree.walk_eq_ok_iff hup).2 ⟨rfl, hsize, hshort,
    fun more hmore hne => hkept more _ hmore (hway more hmore hne),
    hkept path _ (List.prefix_refl _) hat⟩

theorem staysBelow_writeInto (hdirectory : ∀ c ∈ directory, Path.IsName c) (t : FileTree)
    (output : Output) : StaysBelow directory t (writeInto t directory output).1 :=
  fun place hout => (at?_writeInto hdirectory t output place).resolve_right fun h => hout h.2.1

theorem staysBelow_writeAllInto (hdirectory : ∀ c ∈ directory, Path.IsName c) (t : FileTree)
    (outputs : List Output) : StaysBelow directory t (writeAllInto t directory outputs).1 := by
  induction outputs generalizing t with
  | nil => exact .refl _ _
  | cons output rest ih =>
    have hfirst := staysBelow_writeInto hdirectory t output
    unfold writeAllInto
    split
    · rename_i written hwritten
      rw [hwritten] at hfirst
      exact hfirst.trans (ih written)
    · rename_i written fault hwritten
      rw [hwritten] at hfirst
      exact hfirst

theorem writeAllInto_append_eq_ok {before after : List Output}
    (h : writeAllInto t directory (before ++ after) = (t', .ok ())) :
    ∃ between, writeAllInto t directory before = (between, .ok ()) ∧
      writeAllInto between directory after = (t', .ok ()) := by
  induction before generalizing t with
  | nil => exact ⟨t, rfl, h⟩
  | cons output rest ih =>
    rw [List.cons_append, writeAllInto] at h
    rw [writeAllInto]
    split at h
    · exact ih h
    · cases h

theorem writeAllInto_singleton_eq_ok {output : Output}
    (h : writeAllInto t directory [output] = (t', .ok ())) :
    writeInto t directory output = (t', .ok ()) := by
  unfold writeAllInto at h
  split at h
  · rename_i written hwritten
    rw [hwritten]
    exact h
  · cases h

end Storage

end ReplayFlow
