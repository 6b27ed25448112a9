import ReplayFlow.Proofs.Storage.FileTree

/-!
Walks on paths without `..`. Such a walk arrives exactly when every place before
its end is a directory (`walk_eq_ok_iff`), and it sees nothing but the places on
its way (`walk_congr`). From this follows what making a directory and writing a
file change (`makeDirectory_keptOrMade`, `write_eq_ok`).
-/

namespace ReplayFlow.FileTree

variable {t t' : FileTree} {reached path place : List String} {node : Node} {bytes : List UInt8}
  {c : String}

theorem at?_nil (t : FileTree) : t.at? [] = some .directory := if_pos rfl

/-! ## Where a walk arrives -/

/-- A walk sees nothing but the places on its way. -/
theorem walkFrom_congr (hup : ".." ∉ path)
    (h : ∀ more, more <+: path → t.at? (reached ++ more) = t'.at? (reached ++ more)) :
    t.walkFrom reached path = t'.walkFrom reached path := by
  induction path generalizing reached with
  | nil =>
    have hhere : t.at? reached = t'.at? reached := by simpa using h [] List.nil_prefix
    simp only [walkFrom, hhere]
  | cons c rest ih =>
    rw [List.mem_cons, not_or] at hup
    have hhere : t.at? reached = t'.at? reached := by simpa using h [] List.nil_prefix
    have hnext : t.walkFrom (reached ++ [c]) rest = t'.walkFrom (reached ++ [c]) rest :=
      ih hup.2 fun more hmore => by
        simpa using h (c :: more) (List.prefix_cons_inj c |>.2 hmore)
    simp only [walkFrom, hhere, if_neg (Ne.symm hup.1), hnext]

theorem walk_congr (hup : ".." ∉ path) (h : ∀ more, more <+: path → t.at? more = t'.at? more) :
    t.walk path = t'.walk path := by
  rw [walk, walk, walkFrom_congr hup (by simpa using h)]

/-- What stands before the end of a path, told by the first component. -/
theorem forall_before_cons {p : List String → Prop} :
    (∀ more, more <+: c :: path → more ≠ c :: path → p more) ↔
      p [] ∧ ∀ more, more <+: path → more ≠ path → p (c :: more) := by
  constructor
  · refine fun h => ⟨h [] List.nil_prefix (by simp), fun more hmore hne => ?_⟩
    exact h (c :: more) (List.prefix_cons_inj c |>.2 hmore) (by simpa using hne)
  · rintro ⟨hnil, hcons⟩ more hmore hne
    obtain rfl | ⟨rest, rfl, hrest⟩ := List.prefix_cons_iff.1 hmore
    · exact hnil
    · exact hcons rest hrest (by simpa using hne)

theorem walkFrom_cons_eq_ok_iff (hup : c ≠ "..") :
    t.walkFrom reached (c :: path) = .ok (place, node) ↔
      t.at? reached = some .directory ∧ isTooLong c = false ∧
        t.walkFrom (reached ++ [c]) path = .ok (place, node) := by
  cases hhere : t.at? reached with
  | none => simp [walkFrom, hhere]
  | some stood =>
    cases stood with
    | file stored => simp [walkFrom, hhere]
    | directory => cases hlong : isTooLong c <;> simp [walkFrom, hhere, hup, hlong]

theorem walkFrom_eq_ok_iff (hup : ".." ∉ path) :
    t.walkFrom reached path = .ok (place, node) ↔
      place = reached ++ path ∧ (∀ c ∈ path, isTooLong c = false) ∧
        (∀ more, more <+: path → more ≠ path → t.at? (reached ++ more) = some .directory) ∧
        t.at? (reached ++ path) = some node := by
  induction path generalizing reached with
  | nil =>
    rw [walkFrom, List.append_nil]
    cases t.at? reached with
    | none => simp
    | some stood =>
      constructor
      · rintro ⟨⟩
        exact ⟨rfl, by simp, fun more hmore hne => absurd (List.prefix_nil.1 hmore) hne, rfl⟩
      · rintro ⟨rfl, -, -, hat⟩
        rw [Option.some.inj hat]
  | cons c rest ih =>
    rw [List.mem_cons, not_or] at hup
    rw [walkFrom_cons_eq_ok_iff (Ne.symm hup.1), ih hup.2, forall_before_cons,
      List.forall_mem_cons]
    simp only [List.append_assoc, List.cons_append, List.nil_append, List.append_nil]
    tauto

/-- **Where a walk arrives**: at the end of its path, if the path and its components are short
enough and every place before the end is a directory. -/
theorem walk_eq_ok_iff (hup : ".." ∉ path) :
    t.walk path = .ok (place, node) ↔
      place = path ∧ pathSize path ≤ pathLimit ∧ (∀ c ∈ path, isTooLong c = false) ∧
        (∀ more, more <+: path → more ≠ path → t.at? more = some .directory) ∧
        t.at? path = some node := by
  unfold walk
  split
  · rename_i hlong
    simp only [reduceCtorEq, false_iff]
    exact fun h => absurd h.2.1 (by omega)
  · rename_i hshort
    have hsize : pathSize path ≤ pathLimit := by omega
    rw [walkFrom_eq_ok_iff hup]
    simp [hsize]

/-- A walk, with all its ways back, leads to the normalized place. -/
theorem place_of_walkFrom (h : t.walkFrom reached path = .ok (place, node)) :
    place = path.foldl Path.push reached ∧ t.at? place = some node := by
  induction path generalizing reached with
  | nil =>
    unfold walkFrom at h
    split at h
    · rename_i stood hstood
      cases h
      exact ⟨rfl, hstood⟩
    · cases h
  | cons c rest ih =>
    unfold walkFrom at h
    split at h
    · cases h
    · cases h
    · rw [List.foldl_cons, Path.push]
      split at h
      · rename_i hc
        rw [if_pos hc]
        exact ih h
      · rename_i hc
        rw [if_neg hc]
        split at h
        · cases h
        · exact ih h

theorem place_of_walk (h : t.walk path = .ok (place, node)) :
    place = Path.normalize path ∧ t.at? place = some node := by
  unfold walk at h
  split at h
  · cases h
  · exact place_of_walkFrom h

theorem exists?_eq_true_iff : t.exists? path = .ok true ↔
    ∃ place node, t.walk path = .ok (place, node) := by
  unfold exists?
  split
  · rename_i found hwalk
    exact iff_of_true rfl ⟨found.1, found.2, hwalk⟩
  · rename_i hwalk
    simp [hwalk]
  · rename_i trouble _ hwalk
    simp [hwalk]

theorem not_mem_of_isPrefix (hup : ".." ∉ path) (h : place <+: path) : ".." ∉ place :=
  fun hmem => hup (h.subset hmem)

/-! ## Making directories -/

/-- What stands at a place is kept, or nothing stood there and a directory has come on the way to
a path. -/
def KeptOrMade (t t' : FileTree) (path place : List String) : Prop :=
  t'.at? place = t.at? place ∨
    place <+: path ∧ t.at? place = none ∧ t'.at? place = some .directory

theorem KeptOrMade.refl (t : FileTree) (path place : List String) : KeptOrMade t t path place :=
  .inl rfl

theorem KeptOrMade.mono {longer : List String} (h : KeptOrMade t t' path place)
    (hlonger : path <+: longer) : KeptOrMade t t' longer place :=
  h.imp_right fun hnew => ⟨hnew.1.trans hlonger, hnew.2⟩

theorem KeptOrMade.trans {t'' : FileTree} (h : KeptOrMade t t' path place)
    (hnext : KeptOrMade t' t'' path place) : KeptOrMade t t'' path place := by
  obtain hkept | ⟨hplace, hnone, hmade⟩ := hnext
  · rwa [KeptOrMade, hkept]
  · obtain hbefore | ⟨_, _, hdirectory⟩ := h
    · exact .inr ⟨hplace, hbefore ▸ hnone, hmade⟩
    · rw [hnone] at hdirectory
      cases hdirectory

theorem makeFrom_keptOrMade (t : FileTree) (reached path place : List String) :
    KeptOrMade t (t.makeFrom reached path) (reached ++ path) place := by
  induction path generalizing t reached with
  | nil => exact .refl _ _ _
  | cons c rest ih =>
    have hway : reached ++ [c] <+: reached ++ c :: rest := by simp
    have hfirst : KeptOrMade t
        (if (t.at? (reached ++ [c])).isSome then t else t.set (reached ++ [c]) .directory)
        (reached ++ c :: rest) place := by
      split
      · exact .refl _ _ _
      · rename_i hnone
        rw [KeptOrMade, at?_set t (List.concat_ne_nil c reached)]
        split
        · rename_i hplace
          exact .inr ⟨hplace ▸ hway, by simpa [hplace] using hnone, rfl⟩
        · exact .inl rfl
    rw [makeFrom]
    exact hfirst.trans (by simpa using ih _ (reached ++ [c]))

theorem isPrefix_tooLongAt? {long : List String} (h : tooLongAt? path = some long) :
    long <+: path := by
  induction path generalizing long with
  | nil => simp [tooLongAt?] at h
  | cons c rest ih =>
    unfold tooLongAt? at h
    split at h
    · obtain rfl := Option.some.inj h
      simp
    · obtain ⟨later, hlater, rfl⟩ := Option.map_eq_some_iff.1 h
      exact List.prefix_cons_inj c |>.2 (ih hlater)

/-- Making a directory makes directories on the way to it where nothing stood, and changes
nothing else. -/
theorem makeDirectory_keptOrMade (t : FileTree) (path place : List String) :
    KeptOrMade t (t.makeDirectory path).1 path place := by
  unfold makeDirectory
  split
  · exact .refl _ _ _
  · exact .refl _ _ _
  · split
    · rename_i long hlong
      exact (makeFrom_keptOrMade t [] long.dropLast place).mono
        ((List.dropLast_prefix long).trans (isPrefix_tooLongAt? hlong))
    · exact makeFrom_keptOrMade t [] path place
  · exact .refl _ _ _

/-! ## Writing and reading -/

/-- A walk to a place that is missing in a directory has a name of the right length before it. -/
theorem short_of_notFound {before : List String} {name : String} (hup : ".." ∉ before ++ [name])
    (hbefore : t.walk before = .ok (place, .directory))
    (h : t.walk (before ++ [name]) = .error .notFound) :
    pathSize (before ++ [name]) ≤ pathLimit ∧ isTooLong name = false := by
  rw [List.mem_append, List.mem_singleton, not_or] at hup
  obtain ⟨rfl, -, hshort, hway, hat⟩ := (walk_eq_ok_iff hup.1).1 hbefore
  have hplaces : ∀ more, more <+: place → t.at? ([] ++ more) = some .directory := by
    intro more hmore
    by_cases hmore' : more = place
    · simpa [hmore'] using hat
    · exact hway more hmore hmore'
  have hgo : t.walkFrom [] (place ++ [name]) = t.walkFrom place [name] :=
    walkFrom_of_way hplaces (fun c hc => ⟨fun e => hup.1 (e ▸ hc), hshort c hc⟩) [name]
  unfold walk at h
  split at h
  · cases h
  · rename_i hsize
    refine ⟨by omega, ?_⟩
    by_contra hlong
    rw [hgo, walkFrom, hat] at h
    simp [Ne.symm hup.2, hlong] at h

/-- What a write that succeeds does: it puts a file at its path, and the walk there arrives. -/
theorem write_eq_ok (hup : ".." ∉ path) (h : t.write path bytes = .ok t') :
    path ≠ [] ∧ t' = t.set path (.file bytes) ∧ t'.walk path = .ok (path, .file bytes) := by
  have hputs : path ≠ [] → pathSize path ≤ pathLimit → (∀ c ∈ path, isTooLong c = false) →
      (∀ more, more <+: path → more ≠ path → t.at? more = some .directory) →
      (t.set path (.file bytes)).walk path = .ok (path, .file bytes) := by
    intro hpath hsize hshort hway
    refine (walk_eq_ok_iff hup).2 ⟨rfl, hsize, hshort, fun more hmore hne => ?_, ?_⟩
    · rw [at?_set t hpath, if_neg hne, hway more hmore hne]
    · rw [at?_set t hpath, if_pos rfl]
  unfold write at h
  split at h
  · rename_i reached stored hwalk
    obtain ⟨rfl, hsize, hshort, hway, hat⟩ := (walk_eq_ok_iff hup).1 hwalk
    have hpath : reached ≠ [] := by
      rintro rfl
      rw [at?_nil] at hat
      cases hat
    obtain rfl := Except.ok.inj h
    exact ⟨hpath, rfl, hputs hpath hsize hshort hway⟩
  · cases h
  · rename_i hmissing
    split at h
    · rename_i reached name hwalk hlast
      obtain ⟨before, rfl⟩ := List.getLast?_eq_some_iff.1 hlast
      rw [List.dropLast_concat] at hwalk
      obtain ⟨hsize, hname⟩ := short_of_notFound hup hwalk hmissing
      obtain ⟨rfl, -, hshort, hway, hat⟩ :=
        (walk_eq_ok_iff (not_mem_of_isPrefix hup (List.prefix_append ..))).1 hwalk
      obtain rfl := Except.ok.inj h
      have hpath : reached ++ [name] ≠ [] := List.concat_ne_nil name reached
      refine ⟨hpath, rfl, hputs hpath hsize ?_ ?_⟩
      · intro c hc
        obtain hc | hc := List.mem_append.1 hc
        · exact hshort c hc
        · exact List.mem_singleton.1 hc ▸ hname
      · intro more hmore hne
        obtain hmore | rfl := List.prefix_concat_iff.1 hmore |>.symm
        · by_cases hend : more = reached
          · exact hend ▸ hat
          · exact hway more hmore hend
        · exact absurd rfl hne
    · cases h
  · cases h

end ReplayFlow.FileTree
