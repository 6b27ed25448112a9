import ReplayFlow.Proofs.Storage.Containment
import ReplayFlow.Service.Operation

/-!
Paths of the service stay in their directories. Flows are read and saved below
the output directory (`readFlow_congr`, `staysBelow_saveFlow`), and no request
changes anything outside it (`staysBelow_perform`). `Storage.contains_of_isName`
collects what holds of a directory and of every name.
-/

namespace ReplayFlow

namespace Service

theorem Handler.ofPath_ok_bind {α β : Type} (path : α) (next : α → Handler β) :
    Handler.ofPath (.ok path) >>= next = next path := rfl

/-- What a handler gives on with its value is given on. -/
theorem Handler.snd_of_pair {α β : Type} {handler : Handler α} {b : β} {pair : α × β}
    (h : (handler >>= fun a => pure (a, b)).run.outcome = .ok (.ok pair)) : pair.2 = b := by
  cases handler with
  | mk notices outcome =>
    cases outcome with
    | error fault => cases h
    | ok answered =>
      cases answered with
      | error reply => cases h
      | ok a =>
        cases h
        rfl

namespace Site

open Storage (AgreeAround StaysBelow)

variable {s : Site} {t t' : FileTree} {root path : List String} {tcode : String}

/-! ## Flows -/

theorem flowPath_eq_ok_iff (hroot : ∀ c ∈ root, Path.IsName c)
    (hresolve : s.resolve s.settings.outputDirectory = .ok root) :
    s.flowPath tcode = .ok path ↔ Path.hasNull (flowFile tcode) = false ∧
      path = Path.resolve root (flowFile tcode) ∧ root <+: path := by
  have hjoin : s.flowPath tcode = Path.join (Path.absolute root) (flowFile tcode) := by
    rw [flowPath, hresolve]
    rfl
  rw [hjoin, Path.join_eq_ok_iff hroot]

/-- A stored flow is told by the output directory and the way to it. -/
theorem readFlow_congr (hroot : ∀ c ∈ root, Path.IsName c)
    (hresolve : s.resolve s.settings.outputDirectory = .ok root) (h : AgreeAround root t t')
    (tcode : String) : s.readFlow t tcode = s.readFlow t' tcode := by
  unfold readFlow
  cases hpath : s.flowPath tcode with
  | error fault => rfl
  | ok path =>
    obtain ⟨_, rfl, hbelow⟩ := (flowPath_eq_ok_iff hroot hresolve).1 hpath
    have hup := Path.not_mem_resolve root (flowFile tcode)
    rw [Handler.ofPath_ok_bind, Handler.ofPath_ok_bind, h.exists? hup hbelow, h.read hup hbelow]

theorem staysBelow_saveFlow (hroot : ∀ c ∈ root, Path.IsName c)
    (hresolve : s.resolve s.settings.outputDirectory = .ok root) (t : FileTree) (tcode : String)
    (body : FlowBody) : StaysBelow root t (s.saveFlow t tcode body).1 := by
  unfold saveFlow
  cases hpath : s.flowPath tcode with
  | error fault => exact .refl _ _
  | ok path =>
    obtain ⟨hnull, hplace, hbelow⟩ := (flowPath_eq_ok_iff hroot hresolve).1 hpath
    have hnames : ∀ c ∈ path, Path.IsName c := by
      intro c hc
      rw [hplace] at hc
      exact Path.isName_of_mem_resolve hroot hnull hc
    have hbefore : ∀ c ∈ path.dropLast, Path.IsName c :=
      fun c hc => hnames c (List.mem_of_mem_dropLast hc)
    intro place hout
    have hchange := Storage.at?_writeInto hbefore t ⟨path.getLast?.getD "", body.document⟩ place
    rw [Path.resolve_dropLast hnames] at hchange
    obtain hmade | ⟨rfl, _⟩ := hchange
    · refine hmade.imp_right fun ⟨hway, hnew⟩ => ⟨?_, hnew⟩
      have hplaces := List.prefix_or_prefix_of_prefix
        (hway.trans (List.dropLast_prefix path)) hbelow
      exact hplaces.resolve_right hout
    · exact absurd hbelow hout

/-! ## Requests -/

theorem below_of_ok {base : String} {requested : Option String} (hroot : ∀ c ∈ root, Path.IsName c)
    (hresolve : s.resolve base = .ok root) (h : s.below base requested = .ok path) :
    root <+: path ∧ ∀ c ∈ path, Path.IsName c := by
  have hself : path = root → root <+: path ∧ ∀ c ∈ path, Path.IsName c := by
    rintro rfl
    exact ⟨List.prefix_refl _, hroot⟩
  unfold below at h
  rw [hresolve] at h
  cases requested with
  | none => exact hself (Except.ok.inj h).symm
  | some name =>
    by_cases hname : name = ""
    · subst hname
      exact hself (Except.ok.inj h).symm
    · replace h : Path.join (Path.absolute root) name = .ok path := by
        simpa [bind, Except.bind, hname] using h
      obtain ⟨hnull, rfl, hbelow⟩ := (Path.join_eq_ok_iff hroot).1 h
      exact ⟨hbelow, fun c hc => Path.isName_of_mem_resolve hroot hnull hc⟩

theorem staysBelow_process (hroot : ∀ c ∈ root, Path.IsName c)
    (hresolve : s.resolve s.settings.outputDirectory = .ok root) (t : FileTree)
    (body : ProcessBody) : StaysBelow root t (s.process t body).1 := by
  unfold process
  cases hin : s.below s.settings.inputDirectory body.inputDirectory with
  | error fault => exact .refl _ _
  | ok input =>
    cases hout : s.below s.settings.outputDirectory body.outputDirectory with
    | error fault => exact .refl _ _
    | ok output =>
      obtain ⟨hbelow, hnames⟩ := below_of_ok hroot hresolve hout
      simp only [Handler.ofPath_ok_bind]
      split
      · exact .refl _ _
      · exact .refl _ _
      · rename_i result place hcompiled
        obtain rfl : place = output := Handler.snd_of_pair hcompiled
        have hstays := Storage.staysBelow_writeAllInto hnames t result.outputs
        unfold CompileResult.writeInto
        split
        all_goals
          rename_i written hwritten
          rw [hwritten] at hstays
          exact hstays.mono hbelow

/-- **No request changes anything outside the output directory.** -/
theorem staysBelow_perform (hroot : ∀ c ∈ root, Path.IsName c)
    (hresolve : s.resolve s.settings.outputDirectory = .ok root) (t : FileTree) (body : Json)
    (operation : Operation) : StaysBelow root t (s.perform t body operation).1 := by
  cases operation with
  | process =>
    cases hbody : ProcessBody.ofJson? body with
    | none => simp only [perform, hbody, StaysBelow.refl]
    | some body => simpa only [perform, hbody] using staysBelow_process hroot hresolve t body
  | saveFlow tcode =>
    cases hbody : FlowBody.ofJson? body with
    | none => simp only [perform, hbody, StaysBelow.refl]
    | some body => simpa only [perform, hbody] using staysBelow_saveFlow hroot hresolve t tcode body
  | _ => exact .refl _ _

end Site

end Service

/-! ## A directory and every name -/

namespace Storage

/-- What is promised of a directory, given by its components. -/
structure Contains (directory : List String) : Prop where
  /-- A name is joined to the directory exactly if the normalized place it leads to is the
  directory or below it, and then to that place. -/
  joins : ∀ name, Path.hasNull name = false →
    Path.join (Path.absolute directory) name =
      if directory <+: Path.resolve directory name then .ok (Path.resolve directory name)
      else .error (.outside (Path.absolute directory) name)
  /-- A name that leads beside the directory, to a component that the one of the directory
  starts, is refused. -/
  sibling : ∀ parent last suffix below name, directory = parent ++ [last] → suffix ≠ "" →
    Path.hasNull name = false →
    Path.resolve directory name = parent ++ (last ++ suffix) :: below →
    Path.join (Path.absolute directory) name = .error (.outside (Path.absolute directory) name)
  /-- What is read is a file at the directory or below it. -/
  reads : ∀ t name bytes, readInside t directory name = .ok bytes →
    directory <+: Path.resolve directory name ∧
      t.at? (Path.resolve directory name) = some (.file bytes)
  /-- What is answered to a reader is told by the directory and the way to it. -/
  sees : ∀ t t', AgreeAround directory t t' → ∀ name,
    readInside t directory name = readInside t' directory name
  /-- A write leaves everything outside the directory as it was, but for directories that are
  made on the way to it. -/
  writes : ∀ t output, StaysBelow directory t (writeInto t directory output).1
  /-- The same holds of the flows of a service that has the directory for its output: their
  paths, what is read at them, and what a request changes. -/
  flows : ∀ s : Service.Site, s.resolve s.settings.outputDirectory = .ok directory →
    (∀ tcode path, s.flowPath tcode = .ok path → directory <+: path) ∧
      (∀ t t', AgreeAround directory t t' → ∀ tcode, s.readFlow t tcode = s.readFlow t' tcode) ∧
      (∀ t tcode body, StaysBelow directory t (s.saveFlow t tcode body).1) ∧
      ∀ t body operation, StaysBelow directory t (s.perform t body operation).1

/-- **Names stay in their directory**, whatever points and separators they are made of. -/
theorem contains_of_isName {directory : List String}
    (hdirectory : ∀ c ∈ directory, Path.IsName c) : Contains directory where
  joins name hnull := by rw [Path.join_absolute hdirectory hnull, Path.tidy_absolute hdirectory]
  sibling parent last suffix below name hlast hsuffix hnull hplace := by
    subst hlast
    rw [Path.join_absolute hdirectory hnull, Path.tidy_absolute hdirectory, hplace,
      if_neg (Path.not_below_of_longer hsuffix)]
  reads _ _ _ := at?_of_readInside hdirectory
  sees _ _ h := readInside_congr hdirectory h
  writes := staysBelow_writeInto hdirectory
  flows _ hresolve :=
    ⟨fun _ _ hpath => ((Service.Site.flowPath_eq_ok_iff hdirectory hresolve).1 hpath).2.2,
      fun _ _ h => Service.Site.readFlow_congr hdirectory hresolve h,
      Service.Site.staysBelow_saveFlow hdirectory hresolve,
      Service.Site.staysBelow_perform hdirectory hresolve⟩

theorem contains_flows :
    (∀ c ∈ ["srv", "flows"], Path.IsName c) ∧ Contains ["srv", "flows"] :=
  ⟨by decide, contains_of_isName (by decide)⟩

end Storage

end ReplayFlow
