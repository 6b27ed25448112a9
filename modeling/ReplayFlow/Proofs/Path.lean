import Mathlib.Data.List.Infix
import ReplayFlow.Path
import ReplayFlow.Text.Utf8

/-!
Paths as components. The text of an absolute path is read back as its components
(`components_absolute`), a name after a separator as the components after those
before it (`components_append`), and a name is joined to its base exactly when
the place it leads to lies below the base (`join_absolute`). A text without
separators is one component.
-/

namespace ReplayFlow

/-! ## Pieces -/

namespace Text

variable {sep c : Char} {text : List Char}

theorem pieces_ne_nil (sep : Char) (text : List Char) : pieces sep text ≠ [] := by
  induction text with
  | nil => simp [pieces]
  | cons c text ih =>
    simp only [pieces]
    split
    · simp
    · split <;> simp

theorem pieces_cons_of_ne {first : List Char} {rest : List (List Char)} (hc : c ≠ sep)
    (h : pieces sep text = first :: rest) : pieces sep (c :: text) = (c :: first) :: rest := by
  simp [pieces, hc, h]

theorem pieces_append (sep : Char) (before rest : List Char) :
    pieces sep (before ++ sep :: rest) = pieces sep before ++ pieces sep rest := by
  induction before with
  | nil => simp [pieces]
  | cons c before ih =>
    by_cases hc : c = sep
    · simp [pieces, hc, ih]
    · obtain ⟨first, more, h⟩ := List.exists_cons_of_ne_nil (pieces_ne_nil sep before)
      rw [pieces_cons_of_ne hc h, List.cons_append, pieces_cons_of_ne hc (by rw [ih, h]; rfl)]
      rfl

theorem pieces_of_not_mem (h : sep ∉ text) : pieces sep text = [text] := by
  induction text with
  | nil => rfl
  | cons c text ih =>
    have hc : c ≠ sep := fun e => h (e ▸ List.mem_cons_self ..)
    exact pieces_cons_of_ne hc (ih fun hm => h (List.mem_cons_of_mem _ hm))

theorem not_mem_of_mem_pieces {piece : List Char} (h : piece ∈ pieces sep text) : sep ∉ piece := by
  induction text generalizing piece with
  | nil =>
    rw [pieces, List.mem_singleton] at h
    simp [h]
  | cons c text ih =>
    by_cases hc : c = sep
    · rw [pieces, if_pos hc, List.mem_cons] at h
      obtain rfl | h := h
      · simp
      · exact ih h
    · obtain ⟨first, more, hp⟩ := List.exists_cons_of_ne_nil (pieces_ne_nil sep text)
      rw [pieces_cons_of_ne hc hp, List.mem_cons] at h
      obtain rfl | h := h
      · have hfirst : sep ∉ first := ih (hp ▸ List.mem_cons_self ..)
        simp [Ne.symm hc, hfirst]
      · exact ih (hp ▸ List.mem_cons_of_mem _ h)

/-- The first piece opens the text, and the others lie within it. -/
theorem pieces_infix (sep : Char) (text : List Char) :
    (∀ first ∈ (pieces sep text).head?, first <+: text) ∧
      ∀ piece ∈ pieces sep text, piece <:+: text := by
  -- a character is added to the first piece, which stays in the text only where it opens it
  induction text with
  | nil => simp [pieces]
  | cons c text ih =>
    have hlater : ∀ piece ∈ pieces sep text, piece <:+: c :: text := fun piece h =>
      (ih.2 piece h).trans (List.suffix_cons c text).isInfix
    by_cases hc : c = sep
    · rw [pieces, if_pos hc]
      refine ⟨by simp, List.forall_mem_cons.2 ⟨List.nil_infix, hlater⟩⟩
    · obtain ⟨first, more, hp⟩ := List.exists_cons_of_ne_nil (pieces_ne_nil sep text)
      rw [hp] at ih hlater
      have hfirst : c :: first <+: c :: text := List.prefix_cons_inj c |>.2 (ih.1 first rfl)
      rw [pieces_cons_of_ne hc hp]
      refine ⟨by simpa using hfirst, List.forall_mem_cons.2 ⟨hfirst.isInfix, ?_⟩⟩
      exact fun piece h => hlater piece (List.mem_cons_of_mem _ h)

end Text

namespace Path

/-- A component that names something: none of those that count for nothing, nor `..`. -/
structure IsName (c : String) : Prop where
  ne_empty : c ≠ ""
  ne_point : c ≠ "."
  ne_points : c ≠ ".."
  noSeparator : '/' ∉ c.toList
  noNull : '\x00' ∉ c.toList

instance (c : String) : Decidable (IsName c) :=
  decidable_of_iff (c ≠ "" ∧ c ≠ "." ∧ c ≠ ".." ∧ '/' ∉ c.toList ∧ '\x00' ∉ c.toList)
    ⟨fun ⟨h₁, h₂, h₃, h₄, h₅⟩ => ⟨h₁, h₂, h₃, h₄, h₅⟩,
      fun h => ⟨h.ne_empty, h.ne_point, h.ne_points, h.noSeparator, h.noNull⟩⟩

variable {c path : String} {cs : List String}

theorem hasNull_eq_false_iff : hasNull path = false ↔ '\x00' ∉ path.toList := by
  simp [hasNull]

theorem hasNull_append (a b : String) : hasNull (a ++ b) = (hasNull a || hasNull b) := by
  simp [hasNull]

/-! ## Components -/

theorem components_append (path name : String) :
    components (path ++ "/" ++ name) = components path ++ components name := by
  have hsplit : (path ++ "/" ++ name).toList = path.toList ++ '/' :: name.toList := by simp
  rw [components, hsplit, Text.pieces_append, List.filter_append, List.map_append]
  rfl

@[simp] theorem components_empty : components "" = [] := by decide

/-- A text without separators is a component of its own, unless it counts for nothing. -/
theorem components_of_noSeparator (h : '/' ∉ c.toList) (hempty : c ≠ "") (hpoint : c ≠ ".") :
    components c = [c] := by
  have hkeep : c.toList ≠ [] ∧ c.toList ≠ ['.'] :=
    ⟨fun e => hempty (String.toList_inj.1 e), fun e => hpoint (String.toList_inj.1 e)⟩
  rw [components, Text.pieces_of_not_mem h, List.filter_cons_of_pos (by simpa using hkeep)]
  simp

theorem IsName.components_eq (h : IsName c) : components c = [c] :=
  components_of_noSeparator h.noSeparator h.ne_empty h.ne_point

theorem infix_of_mem_components (h : c ∈ components path) : c.toList <:+: path.toList := by
  obtain ⟨piece, hpiece, rfl⟩ := List.mem_map.1 h
  rw [String.toList_ofList]
  exact (Text.pieces_infix '/' path.toList).2 piece (List.mem_of_mem_filter hpiece)

/-- A component of a text without null names something or is `..`. -/
theorem isName_of_mem_components (hc : c ∈ components path) (hup : c ≠ "..")
    (hnull : hasNull path = false) : IsName c := by
  have hwithin := infix_of_mem_components hc
  obtain ⟨piece, hpiece, rfl⟩ := List.mem_map.1 hc
  obtain ⟨hmem, hkeep⟩ := List.mem_filter.1 hpiece
  have hkept : piece ≠ [] ∧ piece ≠ ['.'] := by simpa using hkeep
  refine ⟨fun e => hkept.1 ?_, fun e => hkept.2 ?_, hup, ?_, fun hm => ?_⟩
  · simpa using congrArg String.toList e
  · simpa using congrArg String.toList e
  · rw [String.toList_ofList]
    exact Text.not_mem_of_mem_pieces hmem
  · exact hasNull_eq_false_iff.1 hnull (hwithin.subset hm)

theorem components_intercalate (h : ∀ c ∈ cs, IsName c) :
    components ("/".intercalate cs) = cs := by
  induction cs with
  | nil => rfl
  | cons c rest ih =>
    have hc := h c (List.mem_cons_self ..)
    cases rest with
    | nil => rw [show "/".intercalate [c] = c by simp, hc.components_eq]
    | cons d rest =>
      have hcut : "/".intercalate (c :: d :: rest) = c ++ "/" ++ "/".intercalate (d :: rest) := by
        simp
      rw [hcut, components_append, hc.components_eq,
        ih fun e he => h e (List.mem_cons_of_mem _ he), List.singleton_append]

theorem components_absolute (h : ∀ c ∈ cs, IsName c) : components (absolute cs) = cs := by
  have hroot : absolute cs = "" ++ "/" ++ "/".intercalate cs := by simp [absolute]
  rw [hroot, components_append, components_intercalate h, components_empty, List.nil_append]

/-! ## Absolute paths -/

theorem isAbsolute_absolute (cs : List String) : isAbsolute (absolute cs) = true := by
  simp [isAbsolute, absolute, Text.startsWith, Text.after?]

theorem intercalate_cons (c : String) (rest : List String) :
    ∃ more, "/".intercalate (c :: rest) = c ++ more := by
  cases rest with
  | nil => exact ⟨"", by simp⟩
  | cons d rest => exact ⟨"/" ++ "/".intercalate (d :: rest), by simp [String.append_assoc]⟩

/-- One slash opens the text: no component starts with another. -/
theorem rootText_absolute (h : ∀ c ∈ cs, IsName c) : rootText (absolute cs) = "/" := by
  cases cs with
  | nil => rfl
  | cons c rest =>
    have hc := h c (List.mem_cons_self ..)
    obtain ⟨more, hmore⟩ := intercalate_cons c rest
    cases hchars : c.toList with
    | nil => exact absurd (String.toList_inj.1 hchars) hc.ne_empty
    | cons first others =>
      have hfirst : first ≠ '/' := by
        rintro rfl
        exact hc.noSeparator (hchars ▸ List.mem_cons_self ..)
      have htext : (absolute (c :: rest)).toList = '/' :: first :: (others ++ more.toList) := by
        simp [absolute, hmore, hchars]
      simp [rootText, htext, hfirst]

theorem tidy_absolute (h : ∀ c ∈ cs, IsName c) : tidy (absolute cs) = absolute cs := by
  have hsome : ("/" : String) ++ "/".intercalate cs ≠ "" := by simp
  rw [tidy, rootText_absolute h, components_absolute h]
  exact if_neg hsome

theorem hasNull_absolute (h : ∀ c ∈ cs, IsName c) : hasNull (absolute cs) = false := by
  have hbelow : hasNull ("/".intercalate cs) = false := by
    induction cs with
    | nil => rfl
    | cons c rest ih =>
      have hc : hasNull c = false := hasNull_eq_false_iff.2 (h c (List.mem_cons_self ..)).noNull
      have hrest := ih fun d hd => h d (List.mem_cons_of_mem _ hd)
      cases rest with
      | nil => simpa using hc
      | cons d rest =>
        rw [show "/".intercalate (c :: d :: rest) = c ++ "/" ++ "/".intercalate (d :: rest) by simp,
          hasNull_append, hasNull_append, hc, hrest]
        rfl
  rw [absolute, hasNull_append, hbelow]
  rfl

/-! ## Normalized paths -/

theorem normalize_append (before after : List String) :
    normalize (before ++ after) = after.foldl push (normalize before) := List.foldl_append

theorem normalize_concat (hc : c ≠ "..") (cs : List String) :
    normalize (cs ++ [c]) = normalize cs ++ [c] := by
  simp [normalize_append, push, hc]

theorem normalize_of_not_mem (h : ".." ∉ cs) : normalize cs = cs := by
  induction cs using List.reverseRecOn with
  | nil => rfl
  | append_singleton cs c ih =>
    rw [List.mem_append, not_or] at h
    rw [normalize_concat (fun e => h.2 (e ▸ List.mem_singleton_self _)), ih h.1]

theorem not_mem_normalize (cs : List String) : ".." ∉ normalize cs := by
  induction cs using List.reverseRecOn with
  | nil => simp [normalize]
  | append_singleton cs c ih =>
    simp only [normalize_append, List.foldl_cons, List.foldl_nil, push]
    split
    · exact fun hm => ih (List.mem_of_mem_dropLast hm)
    · rename_i hc
      simpa [Ne.symm hc] using ih

theorem mem_of_mem_normalize (h : c ∈ normalize cs) : c ∈ cs := by
  induction cs using List.reverseRecOn with
  | nil => exact h
  | append_singleton cs d ih =>
    simp only [normalize_append, List.foldl_cons, List.foldl_nil, push] at h
    split at h
    · exact List.mem_append_left _ (ih (List.mem_of_mem_dropLast h))
    · obtain h | h := List.mem_append.1 h
      · exact List.mem_append_left _ (ih h)
      · exact List.mem_append_right _ h

theorem not_mem_resolve (directory : List String) (path : String) :
    ".." ∉ resolve directory path := not_mem_normalize _

/-- A path leads to a place with a name for every component. -/
theorem isName_of_mem_resolve {directory : List String} (h : ∀ c ∈ directory, IsName c)
    (hnull : hasNull path = false) (hc : c ∈ resolve directory path) : IsName c := by
  have hup : c ≠ ".." := fun e => not_mem_resolve directory path (e ▸ hc)
  have hmem : c ∈ seenFrom directory path := mem_of_mem_normalize hc
  unfold seenFrom at hmem
  split at hmem
  · exact isName_of_mem_components hmem hup hnull
  · obtain hmem | hmem := List.mem_append.1 hmem
    · exact h c hmem
    · exact isName_of_mem_components hmem hup hnull

theorem resolve_of_name (h : ∀ c ∈ cs, IsName c) (hc : IsName c) : resolve cs c = cs ++ [c] := by
  have hrelative : isAbsolute c = false := by
    cases hchars : c.toList with
    | nil => simp [isAbsolute, hchars, Text.startsWith, Text.after?]
    | cons first others =>
      have hfirst : first ≠ '/' := by
        rintro rfl
        exact hc.noSeparator (hchars ▸ List.mem_cons_self ..)
      simp [isAbsolute, hchars, Text.startsWith, Text.after?, hfirst.symm]
  have hnone : ".." ∉ cs ++ [c] := by
    rw [List.mem_append, List.mem_singleton, not_or]
    exact ⟨fun hm => (h _ hm).ne_points rfl, fun e => hc.ne_points e.symm⟩
  simp [resolve, seenFrom, hrelative, hc.components_eq, normalize_of_not_mem hnone]

/-- A place is the last of its names in the directory of the others. -/
theorem resolve_dropLast (h : ∀ c ∈ cs, IsName c) :
    resolve cs.dropLast (cs.getLast?.getD "") = cs := by
  cases cs using List.reverseRecOn with
  | nil => decide
  | append_singleton cs c =>
    rw [List.dropLast_concat, List.getLast?_concat, Option.getD_some,
      resolve_of_name (fun d hd => h d (List.mem_append_left _ hd))
        (h c (List.mem_append_right _ (List.mem_singleton_self _)))]

/-! ## Names in a base -/

theorem join_of_null {name : String} (h : hasNull name = true) (base : String) :
    join base name = .error .nullInPath := by
  unfold join
  split <;> simp [hasNull_append, h]

/-- A name is joined to a base exactly where it leads to a place below the base. -/
theorem join_absolute {directory : List String} {name : String}
    (hdirectory : ∀ c ∈ directory, IsName c) (hname : hasNull name = false) :
    join (absolute directory) name =
      if directory <+: resolve directory name then .ok (resolve directory name)
      else .error (.outside (tidy (absolute directory)) name) := by
  have hcomponents := components_absolute hdirectory
  have hinside (place : List String) :
      isInside (absolute directory) place = decide (directory <+: place) := by
    rw [isInside, rootText_absolute hdirectory, hcomponents, Bool.eq_iff_iff]
    simp
  have hnull := hasNull_absolute hdirectory
  have hslash : hasNull "/" = false := rfl
  have hbase := isAbsolute_absolute directory
  unfold join
  cases habsolute : isAbsolute name with
  | true => simp [hname, hbase, hinside, resolve, seenFrom, habsolute]
  | false =>
    simp [hasNull_append, hname, hnull, hslash, hbase, hinside, components_append, hcomponents,
      resolve, seenFrom, habsolute]

theorem join_eq_ok_iff {directory place : List String} {name : String}
    (hdirectory : ∀ c ∈ directory, IsName c) :
    join (absolute directory) name = .ok place ↔
      hasNull name = false ∧ place = resolve directory name ∧ directory <+: place := by
  cases hnull : hasNull name with
  | true => simp [join_of_null hnull]
  | false =>
    rw [join_absolute hdirectory hnull]
    split
    · rename_i hbelow
      constructor
      · rintro ⟨⟩
        exact ⟨rfl, rfl, hbelow⟩
      · rintro ⟨_, rfl, _⟩
        rfl
    · rename_i hout
      simp only [reduceCtorEq, true_and, false_iff]
      rintro ⟨rfl, hbelow⟩
      exact hout hbelow

end Path

end ReplayFlow
