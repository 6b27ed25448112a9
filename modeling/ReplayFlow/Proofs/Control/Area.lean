import ReplayFlow.Control.Area
import ReplayFlow.Proofs.Path
import ReplayFlow.Proofs.Text.Basic

/-!
Where control paths lie. The usable area that a path is found in is the head of
the path up to it, and the window with its index is the only one there
(`liesIn_iff`, `LiesIn.unique`). An area goes by the index of its window: it is a
popup where that is `1` and a main area otherwise, although every popup area is
also found as a usable area (`picks_isMain`, `picks_isPopup`). The other areas are
toolbars (`toolbar?_eq_some_iff`). That an area is kept only once cannot be told by a
search for the first one (`find?_foldl_addNew`).
-/

namespace ReplayFlow

namespace Text

variable {sep : Char} {marker text piece : List Char}

theorem occursIn_iff : occursIn marker text = true ↔ marker <:+: text := by
  induction text with
  | nil =>
    rw [occursIn, afterFirst?, Option.isSome_iff_exists, List.infix_nil]
    simp [after?_eq_some_iff]
  | cons c text ih =>
    rw [occursIn] at ih ⊢
    rw [List.infix_cons_iff, ← ih, afterFirst?, Option.orElse_eq_orElse, Option.orElse_eq_or,
      Option.isSome_or, Bool.or_eq_true]
    refine or_congr_left ?_
    rw [← Option.ne_none_iff_isSome, ne_eq, after?_eq_none_iff, not_not]

/-- What stands between two separators is a piece of the text. -/
theorem mem_pieces_of_infix (h : sep :: piece ++ [sep] <:+: text) (hpiece : sep ∉ piece) :
    piece ∈ pieces sep text := by
  obtain ⟨before, after, rfl⟩ := h
  have hsplit : before ++ (sep :: piece ++ [sep]) ++ after =
      before ++ sep :: (piece ++ sep :: after) := by simp
  rw [hsplit, pieces_append, pieces_append, pieces_of_not_mem hpiece]
  simp

end Text

namespace Area

variable {path head area : String} {window index : List Char} {cut : Cut}

/-! ## Windows -/

/-- What stands between the brackets of a window: decimal digits, at least one. -/
def IsIndex (index : List Char) : Prop :=
  index ≠ [] ∧ ∀ c ∈ index, Text.isDecimalDigit c = true

def indexed (name index : List Char) : List Char := name ++ '[' :: index ++ [']', '/']

/-- The text of a path up to the end of its window. -/
def windowHead (connection session window : List Char) : List Char :=
  indexed "/app/con".toList connection ++ indexed "ses".toList session ++
    indexed "wnd".toList window

theorem cutIndexed?_eq_some_iff {name path : List Char} :
    cutIndexed? name path = some cut ↔
      IsIndex cut.index ∧ cut.head = indexed name cut.index ∧ path = cut.head ++ cut.rest := by
  constructor
  · intro h
    unfold cutIndexed? at h
    split at h
    · cases h
    · rename_i rest hrest
      dsimp only at h
      split at h
      · rename_i c digits more htake hdrop
        cases h
        have hsplit := List.takeWhile_append_dropWhile (p := Text.isDecimalDigit) (l := rest)
        rw [hdrop] at hsplit
        refine ⟨⟨by simp [htake], fun c hc => List.mem_takeWhile_imp hc⟩, rfl, ?_⟩
        rw [Text.after?_eq_some_iff.1 hrest]
        simpa using hsplit.symm
      · cases h
  · obtain ⟨head, index, rest⟩ := cut
    rintro ⟨hindex, hhead, rfl⟩
    dsimp only at hindex hhead ⊢
    subst hhead
    have hafter : Text.after? (name ++ ['[']) (indexed name index ++ rest) =
        some (index ++ ']' :: '/' :: rest) := by
      rw [Text.after?_eq_some_iff, indexed]
      simp
    have hstop : Text.isDecimalDigit ']' = false := by decide
    obtain ⟨c, digits, rfl⟩ := List.exists_cons_of_ne_nil hindex.1
    rw [cutIndexed?, hafter]
    simp only [List.takeWhile_append_of_pos hindex.2, List.dropWhile_append_of_pos hindex.2,
      List.takeWhile_cons, List.dropWhile_cons, hstop, Bool.false_eq_true, if_false,
      List.append_nil]
    rfl

theorem cutWindow?_eq_some_iff {path : List Char} :
    cutWindow? path = some cut ↔ IsIndex cut.index ∧ ∃ connection session,
      IsIndex connection ∧ IsIndex session ∧
        cut.head = windowHead connection session cut.index ∧ path = cut.head ++ cut.rest := by
  simp only [cutWindow?, Option.bind_eq_bind, Option.bind_eq_some_iff, cutIndexed?_eq_some_iff]
  constructor
  · rintro ⟨connection, ⟨hc, hchead, hcpath⟩, session, ⟨hs, hshead, hspath⟩, window,
      ⟨hw, hwhead, hwpath⟩, h⟩
    cases h
    refine ⟨hw, connection.index, session.index, hc, hs, ?_, ?_⟩
    · rw [hchead, hshead, hwhead, windowHead]
    · rw [hcpath, hspath, hwpath]
      simp only [List.append_assoc]
  · obtain ⟨head, window, rest⟩ := cut
    rintro ⟨hw, connection, session, hc, hs, hhead, rfl⟩
    dsimp only at hw hhead ⊢
    subst hhead
    refine ⟨⟨indexed "/app/con".toList connection, connection, _⟩, ⟨hc, rfl, ?_⟩,
      ⟨indexed "ses".toList session, session, _⟩, ⟨hs, rfl, rfl⟩,
      ⟨indexed "wnd".toList window, window, rest⟩, ⟨hw, rfl, rfl⟩, rfl⟩
    simp only [windowHead, List.append_assoc]

/-! ## Usable areas -/

/-- The text of a path up to the usable area of a window. -/
def usableHead (connection session window : List Char) : List Char :=
  windowHead connection session window ++ "usr/".toList

example : usableHead ['0'] ['1', '2'] ['3'] = "/app/con[0]/ses[12]/wnd[3]/usr/".toList := by decide

/-- A path in the usable area of a window, which starts with the head of that area. -/
def LiesIn (path head : String) (window : List Char) : Prop :=
  ∃ connection session, IsIndex connection ∧ IsIndex session ∧ IsIndex window ∧
    head.toList = usableHead connection session window ∧ head.toList <+: path.toList

/-- The index of the window that a path leads into. -/
def windowOf? (path : String) : Option (List Char) := (cutWindow? path.toList).map Cut.index

theorem usable?_eq_some_iff :
    usable? path = some head ↔ ∃ cut, cutWindow? path.toList = some cut ∧
      "usr/".toList <+: cut.rest ∧ head.toList = cut.head ++ "usr/".toList := by
  simp only [usable?, usableChars?, Option.bind_eq_bind, Option.map_eq_some_iff,
    Option.bind_eq_some_iff, Text.after?_eq_some_iff]
  constructor
  · rintro ⟨chars, ⟨cut, hcut, rest, hrest, hchars⟩, rfl⟩
    rw [Option.some.injEq] at hchars
    exact ⟨cut, hcut, ⟨rest, hrest.symm⟩, by rw [String.toList_ofList, hchars]⟩
  · rintro ⟨cut, hcut, ⟨rest, hrest⟩, hhead⟩
    exact ⟨head.toList, ⟨cut, hcut, rest, hrest.symm, congrArg some hhead.symm⟩,
      String.ofList_toList⟩

/-- A path lies where it is found. -/
theorem liesIn_iff :
    LiesIn path head window ↔ usable? path = some head ∧ windowOf? path = some window := by
  rw [usable?_eq_some_iff, windowOf?]
  constructor
  · rintro ⟨connection, session, hc, hs, hw, hhead, rest, hpath⟩
    rw [usableHead] at hhead
    have hcut : cutWindow? path.toList =
        some ⟨windowHead connection session window, window, "usr/".toList ++ rest⟩ := by
      refine cutWindow?_eq_some_iff.2 ⟨hw, connection, session, hc, hs, rfl, ?_⟩
      rw [← hpath, hhead, List.append_assoc]
    exact ⟨⟨_, hcut, List.prefix_append .., hhead⟩, by rw [hcut, Option.map_some]⟩
  · rintro ⟨⟨cut, hcut, ⟨rest, hrest⟩, hhead⟩, hwindow⟩
    rw [hcut, Option.map_some, Option.some.injEq] at hwindow
    obtain ⟨hw, connection, session, hc, hs, hcuthead, hpath⟩ := cutWindow?_eq_some_iff.1 hcut
    rw [hwindow] at hw hcuthead
    refine ⟨connection, session, hc, hs, hw, ?_, rest, ?_⟩
    · rw [hhead, hcuthead, usableHead]
    · rw [hhead, hpath, ← hrest, List.append_assoc]

/-- A path lies in one usable area of one window. -/
theorem LiesIn.unique {other : String} {index : List Char} (h : LiesIn path head window)
    (hother : LiesIn path other index) : head = other ∧ window = index := by
  rw [liesIn_iff] at h hother
  exact ⟨Option.some.inj (h.1.symm.trans hother.1), Option.some.inj (h.2.symm.trans hother.2)⟩

/-- The head of an area lies in that area. -/
theorem LiesIn.self (h : LiesIn path head window) : LiesIn head head window := by
  obtain ⟨connection, session, hc, hs, hw, hhead, _⟩ := h
  exact ⟨connection, session, hc, hs, hw, hhead, List.prefix_rfl⟩

theorem exists_liesIn (h : usable? path = some head) : ∃ window, LiesIn path head window := by
  obtain ⟨cut, hcut, _⟩ := usable?_eq_some_iff.1 h
  exact ⟨cut.index, liesIn_iff.2 ⟨h, by rw [windowOf?, hcut, Option.map_some]⟩⟩

/-- Areas of different windows do not start one another. -/
theorem not_prefix_of_windows_ne {path' head' : String} (h : LiesIn path head window)
    (h' : LiesIn path' head' index) (hne : window ≠ index) : ¬head.toList <+: head'.toList := by
  intro hprefix
  obtain ⟨connection, session, hc, hs, hw, hhead, _⟩ := h
  exact hne (LiesIn.unique ⟨connection, session, hc, hs, hw, hhead, hprefix⟩ h'.self).2

/-! ## Classes of areas -/

theorem pieces_indexed {name : List Char} (hname : '/' ∉ name) (h : IsIndex index)
    (rest : List Char) :
    Text.pieces '/' (indexed name index ++ rest) =
      (name ++ '[' :: index ++ [']']) :: Text.pieces '/' rest := by
  have hslash : '/' ∉ index := fun hmem => absurd (h.2 _ hmem) (by decide)
  have hpiece : '/' ∉ name ++ '[' :: index ++ [']'] := by simp [hname, hslash]
  have hcut : indexed name index ++ rest = (name ++ '[' :: index ++ [']']) ++ '/' :: rest := by
    simp [indexed]
  rw [hcut, Text.pieces_append, Text.pieces_of_not_mem hpiece, List.singleton_append]

/-- The mark of a popup stands in the head of an area only where its window is `1`. -/
theorem occursIn_usableHead_iff {connection session : List Char} (hc : IsIndex connection)
    (hs : IsIndex session) (hw : IsIndex window) :
    Text.occursIn "/wnd[1]/".toList (usableHead connection session window) = true ↔
      window = ['1'] := by
  have hroot : usableHead connection session window =
      ['/', 'a', 'p', 'p'] ++ '/' :: (indexed ['c', 'o', 'n'] connection ++
        (indexed ['s', 'e', 's'] session ++
          (indexed ['w', 'n', 'd'] window ++ "usr/".toList))) := by
    simp only [usableHead, windowHead, List.append_assoc]
    rfl
  rw [Text.occursIn_iff, hroot]
  constructor
  · intro hinfix
    have hmem : ['w', 'n', 'd', '[', '1', ']'] ∈ Text.pieces '/' _ :=
      Text.mem_pieces_of_infix hinfix (by decide)
    rw [Text.pieces_append, pieces_indexed (by decide) hc, pieces_indexed (by decide) hs,
      pieces_indexed (by decide) hw] at hmem
    have hwindow : ['1'] ++ [']'] = window ++ [']'] := by
      simpa [Text.pieces] using hmem
    exact (List.append_cancel_right hwindow).symm
  · rintro rfl
    refine ⟨['/', 'a', 'p', 'p'] ++ '/' :: (indexed ['c', 'o', 'n'] connection ++
      (['s', 'e', 's'] ++ '[' :: session ++ [']'])), "usr/".toList, ?_⟩
    simp [indexed]

theorem popup?_eq_some_iff : popup? path = some head ↔ LiesIn path head ['1'] := by
  rw [liesIn_iff, popup?, popupChars?, usable?, windowOf?]
  cases cutWindow? path.toList with
  | none => simp
  | some cut => by_cases h : cut.index = ['1'] <;> simp [h]

/-- A test that tells areas apart by the window: of usable areas it picks those of certain
windows, and it picks no other area. -/
structure Picks (test : String → Bool) (kind : List Char → Prop) : Prop where
  usable : ∀ {path head window}, LiesIn path head window → (test head = true ↔ kind window)
  only : ∀ {area}, test area = true → (usable? area).isSome = true

theorem picks_isMain : Picks isMain (· ≠ ['1']) where
  usable h := by
    have ⟨connection, session, hc, hs, hw, hhead, _⟩ := h
    rw [isMain, (liesIn_iff.1 h.self).1, hhead, Option.isSome_some, Bool.true_and,
      Bool.not_eq_true', ← Bool.not_eq_true, occursIn_usableHead_iff hc hs hw]
  only h := (Bool.and_eq_true_iff.1 h).1

theorem picks_isPopup : Picks isPopup (· = ['1']) where
  usable h := by
    rw [isPopup, Option.isSome_iff_exists]
    constructor
    · rintro ⟨other, hother⟩
      exact (h.self.unique (popup?_eq_some_iff.1 hother)).2
    · rintro rfl
      exact ⟨_, popup?_eq_some_iff.2 h.self⟩
  only h := by
    obtain ⟨head, hhead⟩ := Option.isSome_iff_exists.1 h
    rw [(liesIn_iff.1 (popup?_eq_some_iff.1 hhead)).1, Option.isSome_some]

/-! ## Toolbars -/

/-- The text of a path up to the end of a toolbar. -/
def barHead (connection session window bar : List Char) : List Char :=
  windowHead connection session window ++ indexed "tbar".toList bar

/-- A path in a toolbar of a window, which starts with the head of that toolbar. -/
def LiesInBar (path head : String) : Prop :=
  ∃ connection session window bar, IsIndex connection ∧ IsIndex session ∧ IsIndex window ∧
    IsIndex bar ∧ head.toList = barHead connection session window bar ∧
    head.toList <+: path.toList

/-- An area that a path lies in: the usable area of a window, a popup where the window is `1`, or
a toolbar. -/
def IsAreaOf (path head : String) : Prop :=
  (∃ window, LiesIn path head window) ∨ LiesInBar path head

theorem toolbar?_eq_some_iff : toolbar? path = some head ↔ LiesInBar path head := by
  simp only [toolbar?, toolbarChars?, Option.bind_eq_bind, Option.map_eq_some_iff,
    Option.bind_eq_some_iff, cutIndexed?_eq_some_iff, cutWindow?_eq_some_iff]
  constructor
  · rintro ⟨chars, ⟨cut, ⟨hw, connection, session, hc, hs, hhead, hpath⟩, bar,
      ⟨hb, hbar, hrest⟩, hchars⟩, rfl⟩
    rw [Option.some.injEq] at hchars
    refine ⟨connection, session, cut.index, bar.index, hc, hs, hw, hb, ?_, ?_⟩
    · rw [String.toList_ofList, ← hchars, hhead, hbar, barHead]
    · rw [String.toList_ofList, ← hchars, hpath, hrest, ← List.append_assoc]
      exact List.prefix_append ..
  · rintro ⟨connection, session, window, bar, hc, hs, hw, hb, hhead, rest, hpath⟩
    refine ⟨head.toList, ⟨⟨windowHead connection session window, window, _⟩,
      ⟨hw, connection, session, hc, hs, rfl, ?_⟩, ⟨indexed "tbar".toList bar, bar, rest⟩,
      ⟨hb, rfl, rfl⟩, congrArg some hhead.symm⟩, String.ofList_toList⟩
    rw [← hpath, hhead, barHead, List.append_assoc]

/-- A toolbar is not in a usable area. -/
theorem usable?_of_toolbar? (h : toolbar? path = some area) : usable? area = none := by
  obtain ⟨connection, session, window, bar, hc, hs, hw, _, hhead, _⟩ := toolbar?_eq_some_iff.1 h
  have hcut : cutWindow? area.toList =
      some ⟨windowHead connection session window, window, indexed "tbar".toList bar⟩ :=
    cutWindow?_eq_some_iff.2 ⟨hw, connection, session, hc, hs, rfl, hhead⟩
  refine Option.eq_none_iff_forall_ne_some.2 fun head husable => ?_
  obtain ⟨cut, hother, ⟨rest, hrest⟩, _⟩ := usable?_eq_some_iff.1 husable
  obtain rfl := Option.some.inj (hcut.symm.trans hother)
  cases hrest

/-! ## Each area once -/

theorem find?_addNew (p : String → Bool) (known : List String) (area : String) :
    (addNew known area).find? p = (known ++ [area]).find? p := by
  unfold addNew
  split
  · rename_i hknown
    rw [List.find?_append]
    cases hfound : known.find? p with
    | some found => rfl
    | none =>
      have hother := List.find?_eq_none.1 hfound area hknown
      rw [Option.none_or, List.find?_singleton, if_neg hother]
  · rfl

theorem find?_foldl_addNew (p : String → Bool) (known areas : List String) :
    (areas.foldl addNew known).find? p = (known ++ areas).find? p := by
  induction areas generalizing known with
  | nil => rw [List.foldl_nil, List.append_nil]
  | cons area rest ih =>
    rw [List.foldl_cons, ih, List.find?_append, find?_addNew, ← List.find?_append,
      List.append_assoc, List.singleton_append]

end Area

end ReplayFlow
