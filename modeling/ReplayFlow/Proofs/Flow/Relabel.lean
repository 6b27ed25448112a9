import ReplayFlow.Flow.StepMap
import ReplayFlow.Proofs.Flow.Repair

/-!
Repair under new names for steps. Keys and the references to them change
together (`StepMap.relabel`). Where a reference names a step under the new names
exactly when it does under the old ones, a map is repaired under its new names as it
is under the old ones (`StepMap.repair_relabel`).
-/

namespace ReplayFlow

/-! ## Keys and values -/

namespace Entries

variable {α β : Type}

/-- Changes the keys, and each value after its key. -/
def mapEntries (f : String → String) (g : String → α → β) (es : Entries α) : Entries β :=
  es.map fun entry => (f entry.1, g entry.1 entry.2)

variable {f : String → String} {g : String → α → β} {es : Entries α} {key : String}

theorem keys_mapEntries (f : String → String) (g : String → α → β) (es : Entries α) :
    keys (mapEntries f g es) = (keys es).map f := by
  simp [keys, mapEntries]

theorem get?_mapEntries (h : ∀ k ∈ keys es, f k = f key ↔ k = key) :
    get? (mapEntries f g es) (f key) = (get? es key).map (g key) := by
  induction es with
  | nil => rfl
  | cons entry rest ih =>
    have hfirst := h entry.1 (List.mem_cons_self ..)
    have hrest : get? (mapEntries f g rest) (f key) = (get? rest key).map (g key) :=
      ih fun k hk => h k (List.mem_cons_of_mem _ hk)
    rw [mapEntries, List.map_cons, get?, get?, ← mapEntries, hrest]
    by_cases hkey : entry.1 = key
    · rw [if_pos hkey, if_pos (hfirst.2 hkey), hkey]
      rfl
    · rw [if_neg hkey, if_neg fun e => hkey (hfirst.1 e)]

theorem mapEntries_insert (h : ∀ k ∈ keys es, f k = f key ↔ k = key) (value : α) :
    mapEntries f g (insert es key value) = insert (mapEntries f g es) (f key) (g key value) := by
  induction es with
  | nil => rfl
  | cons entry rest ih =>
    have hfirst := h entry.1 (List.mem_cons_self ..)
    have hrest := ih fun k hk => h k (List.mem_cons_of_mem _ hk)
    simp only [insert, mapEntries, List.map_cons] at hrest ⊢
    by_cases hkey : entry.1 = key
    · simp [hkey]
    · simp [hkey, hfirst, hrest]

/-- Changes the value of one key. -/
def changeAt (key : String) (g : α → α) (es : Entries α) : Entries α :=
  mapEntries id (fun k value => if k = key then g value else value) es

theorem changeAt_of_not_mem (h : key ∉ keys es) (g : α → α) : changeAt key g es = es := by
  induction es with
  | nil => rfl
  | cons entry rest ih =>
    rw [keys, List.map_cons, List.mem_cons, not_or] at h
    have hrest : changeAt key g rest = rest := ih h.2
    simp only [changeAt, mapEntries, id_eq] at hrest ⊢
    rw [List.map_cons, hrest, if_neg (Ne.symm h.1)]

theorem changeAt_of_get? (hn : (keys es).Nodup) {value : α} (h : get? es key = some value)
    (g : α → α) : changeAt key g es = insert es key (g value) := by
  induction es with
  | nil => cases h
  | cons entry rest ih =>
    obtain ⟨hfresh, hrest⟩ := List.nodup_cons.1 hn
    rw [get?] at h
    by_cases hkey : entry.1 = key
    · rw [if_pos hkey] at h
      have hlater : changeAt key g rest = rest := changeAt_of_not_mem (hkey ▸ hfresh) g
      simp only [changeAt, mapEntries, id_eq] at hlater ⊢
      rw [List.map_cons, hlater, if_pos hkey, Option.some.inj h, insert, if_pos hkey, hkey]
    · rw [if_neg hkey] at h
      have hlater := ih hrest h
      simp only [changeAt, mapEntries, id_eq] at hlater ⊢
      rw [List.map_cons, hlater, if_neg hkey, insert, if_neg hkey]

end Entries

/-! ## The references of a body -/

/-- A text under a new name. -/
def Json.renamed (f : String → String) : Json → Json
  | .str s => .str (f s)
  | v => v

namespace Body

variable {g : Json → Json} {f : String → String} {ids more : List String} {body : Body}
  {key : String}

/-- Changes the references of a body. -/
def mapLinks (g : Json → Json) (body : Body) : Body :=
  Entries.mapEntries id (fun key value => if key ∈ referenceKeys then g value else value) body

theorem get?_mapLinks (g : Json → Json) (body : Body) (key : String) :
    Entries.get? (mapLinks g body) key =
      (Entries.get? body key).map fun value => if key ∈ referenceKeys then g value else value :=
  Entries.get?_mapEntries (f := id) fun _ _ => Iff.rfl

theorem mapLinks_insert (g : Json → Json) (body : Body) (key : String) (value : Json) :
    mapLinks g (Entries.insert body key value) = Entries.insert (mapLinks g body) key
      (if key ∈ referenceKeys then g value else value) :=
  Entries.mapEntries_insert (f := id) (fun _ _ => Iff.rfl) value

theorem mapLinks_erase (g : Json → Json) (body : Body) (key : String) :
    mapLinks g (Entries.erase body key) = Entries.erase (mapLinks g body) key := by
  simp [mapLinks, Entries.mapEntries, Entries.erase, List.filter_map, Function.comp_def]

theorem field_mapLinks (hnull : g .null = .null) (body : Body) (key : String) :
    Entries.field (mapLinks g body) key =
      if key ∈ referenceKeys then g (Entries.field body key) else Entries.field body key := by
  rw [Entries.field, Entries.field, get?_mapLinks]
  cases Entries.get? body key <;> simp [hnull]

theorem hasAction_mapLinks (g : Json → Json) (body : Body) (action : String) :
    hasAction (mapLinks g body) action = hasAction body action := by
  have hkey : "action" ∉ referenceKeys := by decide
  have hfield : Entries.field (mapLinks g body) "action" = Entries.field body "action" := by
    simp only [Entries.field, get?_mapLinks, if_neg hkey, Option.map_id']
  rw [hasAction, hfield, hasAction]

theorem isExit_mapLinks (g : Json → Json) (body : Body) : isExit (mapLinks g body) = isExit body :=
  hasAction_mapLinks g body "exit"

/-! ## Repair of one body -/

theorem isGiven_renamed (hempty : ∀ s, f s = "" ↔ s = "") (v : Json) :
    (v.renamed f).isGiven = v.isGiven := by
  cases v with
  | str s => simp [Json.renamed, Json.isGiven, hempty]
  | _ => rfl

theorem field_mapLinks_renamed (f : String → String) (body : Body) (hkey : key ∈ referenceKeys) :
    Entries.field (mapLinks (Json.renamed f) body) key = (Entries.field body key).renamed f := by
  rw [field_mapLinks rfl, if_pos hkey]

theorem repairReference_mapLinks (hempty : ∀ s, f s = "" ↔ s = "") (hkey : key ∈ referenceKeys)
    (hresolves : resolves more ((Entries.field body key).renamed f) =
      resolves ids (Entries.field body key)) (step other following : String) :
    (repairReference more other (f following) (mapLinks (Json.renamed f) body) key).1 =
      mapLinks (Json.renamed f) (repairReference ids step following body key).1 := by
  simp only [repairReference, field_mapLinks_renamed f body hkey, isGiven_renamed hempty,
    hresolves]
  split
  · rw [mapLinks_insert, if_pos hkey]
    rfl
  · rfl

theorem repairReferences_mapLinks (hempty : ∀ s, f s = "" ↔ s = "") {keys : List String}
    (hkeys : ∀ key ∈ keys, key ∈ referenceKeys) (hn : keys.Nodup)
    (hresolves : ∀ key ∈ keys, resolves more ((Entries.field body key).renamed f) =
      resolves ids (Entries.field body key)) (step other following : String) :
    (repairReferences more other (f following) (mapLinks (Json.renamed f) body) keys).1 =
      mapLinks (Json.renamed f) (repairReferences ids step following body keys).1 := by
  induction keys generalizing body with
  | nil => rfl
  | cons key rest ih =>
    obtain ⟨hfresh, hrest⟩ := List.nodup_cons.1 hn
    have hfirst := repairReference_mapLinks hempty (hkeys key (List.mem_cons_self ..))
      (hresolves key (List.mem_cons_self ..)) step other following
    simp only [repairReferences, hfirst]
    refine ih (fun k hk => hkeys k (List.mem_cons_of_mem _ hk)) hrest fun k hk => ?_
    have hother : key ≠ k := fun e => hfresh (e ▸ hk)
    rw [field_repairReference, if_neg hother]
    exact hresolves k (List.mem_cons_of_mem _ hk)

theorem ensureNext_mapLinks (hempty : ∀ s, f s = "" ↔ s = "") (following : String)
    (body : Body) :
    ensureNext (f following) (mapLinks (Json.renamed f) body) =
      mapLinks (Json.renamed f) (ensureNext following body) := by
  have hkey : "next" ∈ referenceKeys := by decide
  simp only [ensureNext, isExit_mapLinks, field_mapLinks_renamed f body hkey,
    isGiven_renamed hempty]
  split
  · rw [mapLinks_insert, if_pos hkey]
    rfl
  · rfl

/-- A body is repaired under new names as under the old ones. -/
theorem repair_mapLinks (hempty : ∀ s, f s = "" ↔ s = "")
    (hresolves : ∀ key ∈ referenceKeys, resolves more ((Entries.field body key).renamed f) =
      resolves ids (Entries.field body key)) (step other following : String) :
    (repair more other (f following) (mapLinks (Json.renamed f) body)).1 =
      mapLinks (Json.renamed f) (repair ids step following body).1 := by
  have hreferences := repairReferences_mapLinks hempty (fun _ h => h) (by decide) hresolves
    step other following
  simp only [repair, hreferences, ensureNext_mapLinks hempty]

end Body

/-! ## Repair of a map -/

namespace StepMap

variable {f : String → String} {ids more : List String} {steps renamed : StepMap}

/-- Steps under new names, with their references after them. -/
def relabel (f : String → String) (steps : Entries Body) : Entries Body :=
  Entries.mapEntries f (fun _ => Body.mapLinks (Json.renamed f)) steps

theorem repairSteps_relabel (hempty : ∀ s, f s = "" ↔ s = "") (hend : f endStep = endStep)
    {steps : Entries Body}
    (hresolves : ∀ entry ∈ steps, ∀ key ∈ referenceKeys,
      Body.resolves more ((Entries.field entry.2 key).renamed f) =
        Body.resolves ids (Entries.field entry.2 key)) :
    (repairSteps more (relabel f steps)).1 = relabel f (repairSteps ids steps).1 := by
  induction steps with
  | nil => rfl
  | cons entry rest ih =>
    have hfollowing : ((relabel f rest).head?.map Prod.fst).getD endStep =
        f ((rest.head?.map Prod.fst).getD endStep) := by
      cases rest with
      | nil => exact hend.symm
      | cons next rest => rfl
    have hbody := Body.repair_mapLinks hempty (hresolves entry (List.mem_cons_self ..)) entry.1
      (f entry.1) ((rest.head?.map Prod.fst).getD endStep)
    have hrest := ih fun other hother => hresolves other (List.mem_cons_of_mem _ hother)
    show (repairSteps more ((f entry.1, Body.mapLinks (Json.renamed f) entry.2) ::
      relabel f rest)).1 = _
    simp only [repairSteps, hfollowing, hbody, hrest]
    rfl

theorem close_relabel (steps : StepMap)
    (hend : ∀ key ∈ steps.keys, f key = endStep ↔ key = endStep)
    (hfixed : f endStep = endStep) (hsteps : renamed.entries = relabel f steps.entries) :
    (close renamed).steps.entries = relabel f (close steps).steps.entries := by
  have hkeys : ∀ key ∈ Entries.keys steps.entries, f key = f endStep ↔ key = endStep := by
    rw [hfixed]
    exact hend
  have hget : renamed.get? endStep = (steps.get? endStep).map (Body.mapLinks (Json.renamed f)) := by
    have hentry := Entries.get?_mapEntries (g := fun _ => Body.mapLinks (Json.renamed f)) hkeys
    rw [hfixed] at hentry
    rw [OrderedMap.get?, hsteps]
    exact hentry
  have hinsert (body : Body) : Entries.insert renamed.entries endStep
      (Body.mapLinks (Json.renamed f) body) =
        relabel f (Entries.insert steps.entries endStep body) := by
    have hentries := Entries.mapEntries_insert
      (g := fun _ => Body.mapLinks (Json.renamed f)) hkeys body
    rw [hfixed] at hentries
    rw [hsteps]
    exact hentries.symm
  unfold close
  rw [hget]
  cases steps.get? endStep with
  | none => exact hinsert Body.exit
  | some body =>
    simp only [Option.map_some, Body.isExit_mapLinks]
    split
    · exact hsteps
    · have hexit := hinsert (Entries.erase (Entries.insert body "action" (.str "exit")) "next")
      rw [Body.mapLinks_erase, Body.mapLinks_insert, if_neg (by decide)] at hexit
      exact hexit

/-- **A map is repaired under new names as under the old ones**, if the names are apart from the
end and a reference names a step under the new names exactly when it does under the old ones. -/
theorem repair_relabel (hempty : ∀ s, f s = "" ↔ s = "")
    (hend : ∀ key ∈ steps.keys, f key = endStep ↔ key = endStep) (hfixed : f endStep = endStep)
    (hsteps : renamed.entries = relabel f steps.entries)
    (hresolves : ∀ entry ∈ steps.entries, ∀ key ∈ referenceKeys,
      Body.resolves (steps.keys.map f) ((Entries.field entry.2 key).renamed f) =
        Body.resolves steps.keys (Entries.field entry.2 key)) :
    renamed.repair.steps.entries = relabel f steps.repair.steps.entries := by
  have hkeys : renamed.keys = steps.keys.map f := by
    rw [OrderedMap.keys, hsteps, relabel, Entries.keys_mapEntries]
    rfl
  have hentries : (repairSteps renamed.keys renamed.entries).1 =
      relabel f (repairSteps steps.keys steps.entries).1 := by
    rw [hkeys, hsteps]
    exact repairSteps_relabel hempty hfixed hresolves
  refine close_relabel ⟨_, _⟩ (fun key hkey => hend key ?_) hfixed hentries
  rw [OrderedMap.keys, keys_repairSteps] at hkey
  exact hkey

end StepMap

end ReplayFlow
