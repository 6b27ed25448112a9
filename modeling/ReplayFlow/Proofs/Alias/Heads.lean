import ReplayFlow.Alias.Generation
import ReplayFlow.Proofs.Control.Area
import ReplayFlow.Proofs.Recording.Registry

/-!
The heads that a batch is written under. Each is that of the first registered path
in an area of its kind, or a default where no path lies in one (`FirstHead`,
`chooseHeads_first`): the popup's comes from a window with the index `1` and the
other from any other window. Either one is an area of its own window, so neither
starts the other.
-/

namespace ReplayFlow

namespace Area

variable {kind : List Char → Prop} {path head default : String} {paths : List String}

/-- The head that some paths lead to: that of the usable area which the first of them lies in,
among areas in windows of some kind, and a default where none of them lies in one. -/
inductive FirstHead (kind : List Char → Prop) (default : String) (paths : List String) :
    String → Prop
  | observed {before after : List String} {path head : String} {window : List Char} :
      paths = before ++ path :: after → LiesIn path head window → kind window →
      (∀ earlier ∈ before, ∀ head window, LiesIn earlier head window → ¬kind window) →
      FirstHead kind default paths head
  | missing : (∀ path ∈ paths, ∀ head window, LiesIn path head window → ¬kind window) →
      FirstHead kind default paths default

/-- Whether it was observed or not, a head is that of an area in a window of its kind. -/
theorem FirstHead.exists_liesIn (h : FirstHead kind default paths head)
    (hdefault : ∃ window, LiesIn default default window ∧ kind window) :
    ∃ window, LiesIn head head window ∧ kind window := by
  cases h with
  | observed _ hlies hkind _ => exact ⟨_, hlies.self, hkind⟩
  | missing _ => exact hdefault

/-- The head of the usable area that a path lies in, where the window is of a kind. -/
def headIn? (kind : List Char → Prop) [DecidablePred kind] (path : String) : Option String :=
  (windowOf? path).bind fun window => if kind window then usable? path else none

variable [DecidablePred kind]

theorem headIn?_eq_some_iff :
    headIn? kind path = some head ↔ ∃ window, LiesIn path head window ∧ kind window := by
  simp only [headIn?, Option.bind_eq_some_iff, Option.ite_none_right_eq_some, liesIn_iff]
  constructor
  · rintro ⟨window, hwindow, hkind, hhead⟩
    exact ⟨window, ⟨hhead, hwindow⟩, hkind⟩
  · rintro ⟨window, ⟨hhead, hwindow⟩, hkind⟩
    exact ⟨window, hwindow, hkind, hhead⟩

theorem headIn?_eq_none_iff :
    headIn? kind path = none ↔ ∀ head window, LiesIn path head window → ¬kind window := by
  simp only [Option.eq_none_iff_forall_ne_some, ne_eq, headIn?_eq_some_iff, not_exists, not_and]

theorem firstHead_iff :
    FirstHead kind default paths head ↔ head = (paths.findSome? (headIn? kind)).getD default := by
  constructor
  · intro h
    cases h with
    | observed hpaths hlies hkind hbefore =>
      have hfound : paths.findSome? (headIn? kind) = some head :=
        List.findSome?_eq_some_iff.2 ⟨_, _, _, hpaths, headIn?_eq_some_iff.2 ⟨_, hlies, hkind⟩,
          fun earlier hmem => headIn?_eq_none_iff.2 (hbefore earlier hmem)⟩
      rw [hfound, Option.getD_some]
    | missing hnone =>
      have hmissing : paths.findSome? (headIn? kind) = none :=
        List.findSome?_eq_none_iff.2 fun path hmem => headIn?_eq_none_iff.2 (hnone path hmem)
      rw [hmissing, Option.getD_none]
  · rintro rfl
    cases hfound : paths.findSome? (headIn? kind) with
    | some head =>
      obtain ⟨before, path, after, hpaths, hhead, hbefore⟩ := List.findSome?_eq_some_iff.1 hfound
      obtain ⟨window, hlies, hkind⟩ := headIn?_eq_some_iff.1 hhead
      exact .observed hpaths hlies hkind fun earlier hmem =>
        headIn?_eq_none_iff.1 (hbefore earlier hmem)
    | none =>
      exact .missing fun path hmem =>
        headIn?_eq_none_iff.1 (List.findSome?_eq_none_iff.1 hfound path hmem)

/-! ## Searching areas -/

variable {test : String → Bool}

theorem filter_usable? (h : Picks test kind) (path : String) :
    (usable? path).filter test = headIn? kind path := by
  cases harea : usable? path with
  | none =>
    refine (headIn?_eq_none_iff.2 fun head window hlies => ?_).symm
    rw [liesIn_iff, harea] at hlies
    cases hlies.1
  | some head =>
    obtain ⟨window, hlies⟩ := exists_liesIn harea
    have hwindow := (liesIn_iff.1 hlies).2
    by_cases hkind : kind window
    · simp [headIn?, hwindow, harea, hkind, (h.usable hlies).2 hkind]
    · simp [headIn?, hwindow, hkind, mt (h.usable hlies).1 hkind]

/-- Of the areas of one path a test picks the usable one or none: the popup is the same area
again, and a toolbar is not picked. -/
theorem find?_ofPath (h : Picks test kind) (path : String) :
    (ofPath path).find? test = headIn? kind path := by
  have hpopup : (popup? path).any test = true → (usable? path).any test = true := by
    intro htest
    obtain ⟨head, hhead, htest⟩ := (Option.any_eq_true ..).1 htest
    rw [(liesIn_iff.1 (popup?_eq_some_iff.1 hhead)).1]
    exact htest
  have hbar : (toolbar? path).any test = false := by
    rw [← Bool.not_eq_true, Option.any_eq_true]
    rintro ⟨bar, hbar, htest⟩
    have hsome := h.only htest
    rw [usable?_of_toolbar? hbar] at hsome
    cases hsome
  rw [← filter_usable? h, ofPath, find?_foldl_addNew, List.nil_append, List.find?_filterMap]
  cases harea : usable? path with
  | none =>
    have hnone : (popup? path).any test = false := by simpa [harea] using hpopup
    simp [hnone, hbar]
  | some head =>
    by_cases htest : test head = true
    · simp [Option.filter_some, htest]
    · have hnone : (popup? path).any test = false := by simpa [harea, htest] using hpopup
      simp [Option.filter_some, htest, hnone, hbar]

/-- The first area of a transaction that a test picks is that of its first path in one. -/
theorem find?_areas (h : Picks test kind) {u : Transaction} (hareas : u.areas = []) :
    u.analyze.areas.find? test = u.analyze.controls.keys.findSome? (headIn? kind) := by
  rw [Transaction.areas_analyze, hareas, find?_foldl_addNew, List.nil_append, List.find?_flatMap,
    (Transaction.sameSteps_analyze u).controls]
  simp only [find?_ofPath h]

theorem find?_collectAreas (h : Picks test kind) {ts : List Transaction}
    (hts : ∀ t ∈ ts, ∃ recording u, Recording.normalize recording = .ok u ∧ t = u.analyze) :
    (collectAreas ts).find? test =
      (ts.flatMap fun t => t.controls.keys).findSome? (headIn? kind) := by
  rw [collectAreas, find?_foldl_addNew, List.nil_append]
  induction ts with
  | nil => rfl
  | cons t rest ih =>
    obtain ⟨⟨recording, u, hu, rfl⟩, hrest⟩ := List.forall_mem_cons.1 hts
    rw [List.flatMap_cons, List.flatMap_cons, List.find?_append, List.findSome?_append,
      find?_areas h (Recording.areas_normalize hu), ih hrest]

end Area

namespace Alias

open Area

/-- **The heads of a batch.** Over the registered paths of its transactions, in the order of the
batch, the head of the usable area is the one that the first path in a window other than `1` leads
to, and the popup's the one that the first path in window `1` leads to, each with its default.
They differ, and neither starts the other. -/
theorem chooseHeads_first {ts : List Transaction}
    (h : ∀ t ∈ ts, ∃ recording u, Recording.normalize recording = .ok u ∧ t = u.analyze) :
    ∃ usable popup, (chooseHeads ts).entries = [("usr", usable), ("popup", popup)] ∧
      (∀ head, FirstHead (· ≠ ['1']) defaultUsable (ts.flatMap fun t => t.controls.keys) head ↔
        head = usable) ∧
      (∀ head, FirstHead (· = ['1']) defaultPopup (ts.flatMap fun t => t.controls.keys) head ↔
        head = popup) ∧
      usable ≠ popup ∧ ¬usable.toList <+: popup.toList ∧ ¬popup.toList <+: usable.toList := by
  let paths := ts.flatMap fun t => t.controls.keys
  obtain ⟨usable, husable⟩ : ∃ usable, usable =
      (paths.findSome? (headIn? (· ≠ ['1']))).getD defaultUsable := ⟨_, rfl⟩
  obtain ⟨popup, hpopup⟩ : ∃ popup, popup =
      (paths.findSome? (headIn? (· = ['1']))).getD defaultPopup := ⟨_, rfl⟩
  have hentries : (chooseHeads ts).entries = [("usr", usable), ("popup", popup)] := by
    rw [husable, hpopup, ← find?_collectAreas picks_isMain h, ← find?_collectAreas picks_isPopup h]
    rfl
  obtain ⟨window, hin, hwindow⟩ := (firstHead_iff.2 husable).exists_liesIn
    ⟨['0'], liesIn_iff.2 ⟨rfl, rfl⟩, by decide⟩
  obtain ⟨_, hin', rfl⟩ := (firstHead_iff.2 hpopup).exists_liesIn
    ⟨['1'], liesIn_iff.2 ⟨rfl, rfl⟩, rfl⟩
  have hstart := not_prefix_of_windows_ne hin hin' hwindow
  have hstart' := not_prefix_of_windows_ne hin' hin (Ne.symm hwindow)
  refine ⟨usable, popup, hentries, fun head => ?_, fun head => ?_, ?_, hstart, hstart'⟩
  · rw [firstHead_iff, husable]
  · rw [firstHead_iff, hpopup]
  · rintro rfl
    exact hstart List.prefix_rfl

end Alias

namespace Sample

/-- A toolbar, and a popup of a twelfth session. -/
def dialog : Json :=
  .obj [("Tcode", .str "va01"), ("Steps", .arr [
    event "Click" "/app/con[0]/ses[0]/wnd[0]/tbar[1]/btn[8]" "",
    event "Click" "/app/con[0]/ses[12]/wnd[1]/usr/btn[0]" ""])]

/-- A window whose index is a one of another script, and a plain window behind it. -/
def windows : Json :=
  .obj [("Tcode", .str "va02"), ("Steps", .arr [
    event "Input" "/app/con[3]/ses[0]/wnd[\uff11]/usr/ctxtVBAK-AUART" "OR",
    event "Click" "/app/con[0]/ses[0]/wnd[0]/usr/btn[8]" ""])]

end Sample

theorem Alias.chooseHeads_first_windows :
    ∃ dialog windows, (Recording.ofDocument Sample.dialog "a").normalize = .ok dialog ∧
      (Recording.ofDocument Sample.windows "b").normalize = .ok windows ∧
      let ts := [dialog.analyze, windows.analyze]
      let paths := ts.flatMap fun t => t.controls.keys
      (Alias.chooseHeads ts).entries = [("usr", "/app/con[3]/ses[0]/wnd[\uff11]/usr/"),
        ("popup", "/app/con[0]/ses[12]/wnd[1]/usr/")] ∧
      Area.FirstHead (· ≠ ['1']) Alias.defaultUsable paths "/app/con[3]/ses[0]/wnd[\uff11]/usr/" ∧
      Area.FirstHead (· = ['1']) Alias.defaultPopup paths "/app/con[0]/ses[12]/wnd[1]/usr/" := by
  obtain ⟨dialog, windows, hdialog, hwindows, hentries⟩ : ∃ dialog windows,
      (Recording.ofDocument Sample.dialog "a").normalize = .ok dialog ∧
      (Recording.ofDocument Sample.windows "b").normalize = .ok windows ∧
      (Alias.chooseHeads [dialog.analyze, windows.analyze]).entries =
        [("usr", "/app/con[3]/ses[0]/wnd[\uff11]/usr/"),
          ("popup", "/app/con[0]/ses[12]/wnd[1]/usr/")] := ⟨_, _, rfl, rfl, rfl⟩
  have hread : ∀ t ∈ [dialog.analyze, windows.analyze],
      ∃ recording u, Recording.normalize recording = .ok u ∧ t = u.analyze := by
    simp only [List.forall_mem_cons, List.not_mem_nil, false_implies, implies_true, and_true]
    exact ⟨⟨_, _, hdialog, rfl⟩, _, _, hwindows, rfl⟩
  obtain ⟨usable, popup, hchosen, husable, hpopup, _⟩ := Alias.chooseHeads_first hread
  rw [hentries] at hchosen
  cases hchosen
  exact ⟨dialog, windows, hdialog, hwindows, hentries, (husable _).2 rfl, (hpopup _).2 rfl⟩

end ReplayFlow
