import Mathlib.Data.List.Nodup
import ReplayFlow.Proofs.Flow.Carried
import ReplayFlow.Proofs.Flow.Relabel
import ReplayFlow.Proofs.Flow.Targets

/-!
Relinking follows a renaming of steps. Where the steps of a flow have new ids
and their references the old ones, each step is matched with its own copy
(`StepMap.follows_idMapping`), however many have one action and one target: the
copies of the steps before it are taken. The references then follow, and the
repaired map is the one of the old ids under the new names
(`Flow.relink_renamed`).
-/

namespace ReplayFlow

namespace Flow

variable {steps : List Step} {r : String → String}

/-- What a step refers to in a legacy flow. -/
def references (step : Step) : List Json := referenceKeys.map (Entries.field (legacyBody step))

/-- New names for steps that have distinct ids. The end keeps its name to itself; no new name is
the id of another step, and none that is really new is referred to. -/
structure Renames (steps : List Step) (r : String → String) : Prop where
  nodup : (steps.map Step.id).Nodup
  id_ne_empty : ∀ step ∈ steps, step.id ≠ ""
  ne_empty : ∀ step ∈ steps, r step.id ≠ ""
  injective : ∀ step ∈ steps, ∀ other ∈ steps, r step.id = r other.id → step.id = other.id
  end_iff : ∀ step ∈ steps, r step.id = endStep ↔ step.id = endStep
  free : ∀ step ∈ steps, ∀ other ∈ steps, r step.id = other.id → step.id = other.id
  unused : ∀ step ∈ steps, r step.id ≠ step.id → ∀ other ∈ steps,
    .str (r step.id) ∉ references other

/-- A name after a renaming; what is no id keeps its name. -/
def newName (steps : List Step) (r : String → String) (name : String) : String :=
  if name ∈ steps.map Step.id then r name else name

/-- The bodies of steps under new names, with the references of the old ones. -/
def movedSteps (steps : List Step) (r : String → String) : StepMap :=
  .ofList (steps.map fun step => (r step.id, legacyBody step))

theorem Renames.entries_movedSteps (h : Renames steps r) :
    (movedSteps steps r).entries = steps.map fun step => (r step.id, legacyBody step) := by
  have hkeys : Entries.keys (steps.map fun step => (r step.id, legacyBody step)) =
      (steps.map Step.id).map r := by
    rw [Entries.keys, List.map_map, List.map_map]
    rfl
  have hn : (Entries.keys (steps.map fun step => (r step.id, legacyBody step))).Nodup := by
    rw [hkeys]
    refine List.Nodup.map_on ?_ h.nodup
    intro x hx y hy hxy
    obtain ⟨step, hstep, rfl⟩ := List.mem_map.1 hx
    obtain ⟨other, hother, rfl⟩ := List.mem_map.1 hy
    exact h.injective step hstep other hother hxy
  rw [movedSteps, OrderedMap.ofList_entries hn]

theorem Renames.contains_movedSteps (h : Renames steps r) {step : Step} (hstep : step ∈ steps) :
    (movedSteps steps r).contains step.id = true ↔ r step.id = step.id := by
  rw [OrderedMap.contains_iff, OrderedMap.keys, h.entries_movedSteps, Entries.keys, List.map_map,
    List.mem_map]
  constructor
  · rintro ⟨other, hother, hid⟩
    have hsame : other.id = step.id := h.free other hother step hstep hid
    exact hsame ▸ hid
  · exact fun hid => ⟨step, hstep, hid⟩

end Flow

/-! ## Matching moved steps -/

namespace StepMap

variable {steps before parsed : List Step} {r : String → String} {mapping : OrderedMap String}
  {done : String → Prop} {output : StepMap}

/-- A mapping that has the new names of some ids, and nothing else. -/
def Follows (r : String → String) (done : String → Prop) (mapping : OrderedMap String) : Prop :=
  ∀ key id, mapping.get? key = some id ↔ done key ∧ id = r key

theorem Follows.congr (h : Follows r done mapping) {other : String → Prop}
    (hsame : ∀ key, other key ↔ done key) : Follows r other mapping := by
  intro key id
  rw [h, hsame]

theorem Follows.contains_iff (h : Follows r done mapping) (key : String) :
    mapping.contains key = true ↔ done key := by
  rw [OrderedMap.contains, Option.isSome_iff_exists]
  constructor
  · rintro ⟨id, hid⟩
    exact ((h key id).1 hid).1
  · exact fun hdone => ⟨r key, (h key _).2 ⟨hdone, rfl⟩⟩

theorem Follows.mem_values_iff (h : Follows r done mapping) (id : String) :
    id ∈ mapping.values ↔ ∃ key, done key ∧ id = r key := by
  rw [OrderedMap.mem_values_iff]
  exact exists_congr fun key => h key id

theorem Follows.insert (h : Follows r done mapping) (id : String) :
    Follows r (fun key => done key ∨ key = id) (mapping.insert id (r id)) := by
  intro key value
  rw [OrderedMap.get?_insert]
  by_cases hkey : id = key
  · subst hkey
    simp [eq_comm]
  · rw [if_neg hkey, h]
    simp [Ne.symm hkey]

/-- The steps that keep their ids are matched with themselves. -/
theorem follows_foldl_matchKept
    (hkept : ∀ step ∈ parsed, output.contains step.id = true ↔ r step.id = step.id)
    (h : Follows r done mapping) :
    Follows r (fun key => done key ∨ key ∈ parsed.map Step.id ∧ r key = key)
      (parsed.foldl (matchKept output) mapping) := by
  intro key id
  have hfixed : key ∈ parsed.map Step.id ∧ key ∈ output.keys ↔
      key ∈ parsed.map Step.id ∧ r key = key := by
    refine and_congr_right fun hmem => ?_
    obtain ⟨step, hstep, rfl⟩ := List.mem_map.1 hmem
    rw [← hkept step hstep, OrderedMap.contains_iff]
  rw [get?_foldl_matchKept]
  split
  · rename_i hself
    have hsame := hfixed.1 hself
    rw [hsame.2, Option.some.injEq, eq_comm]
    exact (and_iff_right (.inr hsame)).symm
  · rename_i hmoved
    have hdone := or_iff_left (a := done key) fun hsame => hmoved (hfixed.2 hsame)
    exact (h key id).trans (and_congr_left' hdone.symm)

theorem fits_legacyBody (step : Step) : fits step (Flow.legacyBody step) = true := by
  rw [fits, Flow.hasAction_legacyBody, Flow.field_legacyBody_target]
  cases expectedTarget? step <;> simp

/-- A step that moved finds its own copy: the copies before it are taken, and its own is free. -/
theorem find?_movedSteps (h : Flow.Renames steps r) {step : Step} {rest : List Step}
    (hsteps : steps = before ++ step :: rest)
    (hfollows : Follows r (fun key => (key ∈ steps.map Step.id ∧ r key = key) ∨
      key ∈ before.map Step.id) mapping)
    (hmissing : mapping.contains step.id = false) :
    ((Flow.movedSteps steps r).entries.find? fun entry =>
      !mapping.values.contains entry.1 && fits step entry.2) =
        some (r step.id, Flow.legacyBody step) := by
  have hstep : step ∈ steps := by rw [hsteps]; simp
  have htaken : ∀ entry ∈ before.map (fun other => (r other.id, Flow.legacyBody other)),
      ¬ (!mapping.values.contains entry.1 && fits step entry.2) = true := by
    intro entry hentry
    obtain ⟨other, hother, rfl⟩ := List.mem_map.1 hentry
    have hvalue : r other.id ∈ mapping.values :=
      (hfollows.mem_values_iff _).2 ⟨other.id, .inr (List.mem_map_of_mem hother), rfl⟩
    simp [hvalue]
  have hfree : r step.id ∉ mapping.values := by
    intro hvalue
    obtain ⟨key, hdone, hkey⟩ := (hfollows.mem_values_iff _).1 hvalue
    have hid : key ∈ steps.map Step.id := by
      obtain ⟨hmem, _⟩ | hmem := hdone
      · exact hmem
      · rw [hsteps, List.map_append]
        exact List.mem_append_left _ hmem
    obtain ⟨other, hother, rfl⟩ := List.mem_map.1 hid
    have hsame := h.injective step hstep other hother hkey
    rw [hsame, (hfollows.contains_iff other.id).2 hdone] at hmissing
    cases hmissing
  have hentries : (Flow.movedSteps steps r).entries =
      before.map (fun other => (r other.id, Flow.legacyBody other)) ++
        (r step.id, Flow.legacyBody step) ::
          rest.map fun other => (r other.id, Flow.legacyBody other) := by
    rw [h.entries_movedSteps]
    simp [hsteps]
  rw [hentries, List.find?_append, List.find?_eq_none.2 htaken, Option.none_or,
    List.find?_cons_of_pos]
  simp [hfree, fits_legacyBody]

theorem follows_foldl_matchMoved (h : Flow.Renames steps r) (hsteps : steps = before ++ parsed)
    (hfollows : Follows r (fun key => (key ∈ steps.map Step.id ∧ r key = key) ∨
      key ∈ before.map Step.id) mapping) :
    Follows r (fun key => key ∈ steps.map Step.id)
      (parsed.foldl (matchMoved fits (Flow.movedSteps steps r)) mapping) := by
  -- what is matched are the ids that are kept, and those of the steps looked at before
  induction parsed generalizing before mapping with
  | nil =>
    rw [List.append_nil] at hsteps
    subst hsteps
    exact hfollows.congr fun key => ⟨fun hmem => .inr hmem, fun hmem => hmem.elim And.left id⟩
  | cons step rest ih =>
    have hnext : steps = before ++ [step] ++ rest := by simpa using hsteps
    have hbefore : ∀ key, key ∈ (before ++ [step]).map Step.id ↔
        key ∈ before.map Step.id ∨ key = step.id := by simp
    cases hcontains : mapping.contains step.id with
    | true =>
      have hdone := (hfollows.contains_iff step.id).1 hcontains
      rw [List.foldl_cons, matchMoved, if_pos hcontains]
      refine ih hnext (hfollows.congr fun key => ?_)
      rw [hbefore]
      constructor
      · rintro (hkept | hmem | rfl)
        · exact .inl hkept
        · exact .inr hmem
        · exact hdone
      · exact fun hmem => hmem.imp_right .inl
    | false =>
      rw [List.foldl_cons, matchMoved, if_neg (by simp [hcontains]),
        find?_movedSteps h hsteps hfollows hcontains]
      refine ih hnext ((hfollows.insert step.id).congr fun key => ?_)
      rw [hbefore, or_assoc]

/-- **Every step is matched with its own copy** under its new name. -/
theorem follows_idMapping (h : Flow.Renames steps r) :
    Follows r (fun key => key ∈ steps.map Step.id)
      (idMapping (Flow.movedSteps steps r) steps) := by
  have hempty : Follows r (fun _ => False) (∅ : OrderedMap String) := fun key id => by simp
  have hkept := follows_foldl_matchKept (fun step hstep => h.contains_movedSteps hstep) hempty
  exact follows_foldl_matchMoved h (List.nil_append steps).symm (hkept.congr (by simp))

/-! ## Renaming references -/

theorem renameReference_eq {f : String → String} {body : Body}
    (hget : ∀ s, (mapping.get? s).getD s = f s) (hempty : f "" = "")
    (hn : (Entries.keys body).Nodup) (key : String) :
    renameReference mapping body key = Entries.changeAt key (Json.renamed f) body := by
  unfold renameReference
  rw [Entries.field]
  cases hvalue : Entries.get? body key with
  | none => rw [Entries.changeAt_of_not_mem (Entries.get?_eq_none_iff.1 hvalue)]; rfl
  | some value =>
    rw [Entries.changeAt_of_get? hn hvalue, Option.getD_some]
    cases value with
    | str s =>
      rw [Json.renamed]
      dsimp only
      split
      · rename_i hs
        rw [hs, hempty, ← hs, Entries.insert_of_get? hvalue]
      · rw [← hget]
        cases mapping.get? s with
        | none => exact (Entries.insert_of_get? hvalue).symm
        | some id => rfl
    | _ => exact (Entries.insert_of_get? hvalue).symm

theorem foldl_renameReference {f : String → String} {body : Body} {keys : List String}
    (hget : ∀ s, (mapping.get? s).getD s = f s) (hempty : f "" = "")
    (hn : (Entries.keys body).Nodup) (hkeys : keys.Nodup) :
    keys.foldl (renameReference mapping) body =
      Entries.mapEntries id (fun key value => if key ∈ keys then value.renamed f else value)
        body := by
  induction keys generalizing body with
  | nil => simp [Entries.mapEntries]
  | cons first rest ih =>
    obtain ⟨hfresh, hrest⟩ := List.nodup_cons.1 hkeys
    have hkept : Entries.keys (Entries.changeAt first (Json.renamed f) body) =
        Entries.keys body := by
      rw [Entries.changeAt, Entries.keys_mapEntries, List.map_id]
    rw [List.foldl_cons, renameReference_eq hget hempty hn, ih (hkept ▸ hn) hrest,
      Entries.changeAt, Entries.mapEntries, Entries.mapEntries, List.map_map, Entries.mapEntries]
    refine List.map_congr_left fun entry _ => ?_
    by_cases hkey : entry.1 = first
    · simp [hkey, hfresh]
    · simp [hkey]

/-- The references of the moved steps are brought up to their new names. -/
theorem entries_rename_movedSteps (h : Flow.Renames steps r) :
    (rename (idMapping (Flow.movedSteps steps r) steps) (Flow.movedSteps steps r)).entries =
      relabel (Flow.newName steps r) (steps.map fun step => (step.id, Flow.legacyBody step)) := by
  have hfollows := follows_idMapping h
  have hget : ∀ s, ((idMapping (Flow.movedSteps steps r) steps).get? s).getD s =
      Flow.newName steps r s := by
    intro s
    unfold Flow.newName
    split
    · rename_i hid
      rw [(hfollows s (r s)).2 ⟨hid, rfl⟩, Option.getD_some]
    · rename_i hid
      have hnone : (idMapping (Flow.movedSteps steps r) steps).get? s = none := by
        rw [Option.eq_none_iff_forall_ne_some]
        exact fun id hsome => hid ((hfollows s id).1 hsome).1
      rw [hnone, Option.getD_none]
  have hempty : Flow.newName steps r "" = "" := by
    refine if_neg fun hmem => ?_
    obtain ⟨step, hstep, hid⟩ := List.mem_map.1 hmem
    exact h.id_ne_empty step hstep hid
  have hmapped (mapping : OrderedMap String) (map : StepMap) : (rename mapping map).entries =
      Entries.mapValues (fun body => referenceKeys.foldl (renameReference mapping) body)
        map.entries := rfl
  rw [hmapped, h.entries_movedSteps, Entries.mapValues, relabel, Entries.mapEntries,
    List.map_map, List.map_map]
  refine List.map_congr_left fun step hstep => ?_
  have hdistinct : referenceKeys.Nodup := by decide
  have hbody := foldl_renameReference hget hempty
    ((Flow.keys_legacyBody_sublist step).nodup (by decide)) hdistinct
  have hname : Flow.newName steps r step.id = r step.id := if_pos (List.mem_map_of_mem hstep)
  simp only [Function.comp_apply, hbody, hname]
  rfl

end StepMap

namespace Flow

variable {steps : List Step} {r : String → String}

/-! ## The repaired map -/

theorem Renames.newName_eq_empty_iff (h : Renames steps r) (s : String) :
    newName steps r s = "" ↔ s = "" := by
  unfold newName
  split
  · rename_i hid
    obtain ⟨step, hstep, rfl⟩ := List.mem_map.1 hid
    exact iff_of_false (h.ne_empty step hstep) (h.id_ne_empty step hstep)
  · rfl

/-- A reference names a step under its new name exactly when it names one under the old. -/
theorem Renames.resolves_renamed (h : Renames steps r) {step : Step} (hstep : step ∈ steps)
    {link : Json} (hlink : link ∈ references step) :
    Body.resolves ((steps.map Step.id).map (newName steps r)) (link.renamed (newName steps r)) =
      Body.resolves (steps.map Step.id) link := by
  cases link with
  | str s =>
    have hids : (steps.map Step.id).map (newName steps r) = (steps.map Step.id).map r := by
      refine List.map_congr_left fun id hid => if_pos hid
    simp only [Json.renamed, Body.resolves, hids]
    by_cases hid : s ∈ steps.map Step.id
    · have hnew : r s ∈ (steps.map Step.id).map r := List.mem_map_of_mem hid
      rw [newName, if_pos hid, decide_eq_true hnew, decide_eq_true hid, Bool.or_true, Bool.or_true]
    · have hnew : s ∉ (steps.map Step.id).map r := by
        intro hmem
        obtain ⟨id, hold, hs⟩ := List.mem_map.1 hmem
        obtain ⟨other, hother, rfl⟩ := List.mem_map.1 hold
        refine h.unused other hother (fun hsame => hid ?_) step hstep (hs ▸ hlink)
        rwa [← hs, hsame]
      rw [newName, if_neg hid, decide_eq_false hnew, decide_eq_false hid]
  | _ => rfl

/-- **Reference repair follows a renaming.** The steps of a legacy transaction under new names,
with the references of the old ones, are relinked to the map that the transaction is assembled
to, with every key and every reference to a step under its new name. -/
theorem relink_renamed {t : Transaction} (h : Renames t.steps r) (created : Json) :
    ∃ built more, (assembleLegacy created t).document = documentOf built more ∧
      ((movedSteps t.steps r).relink t.steps).steps.entries =
        StepMap.relabel (newName t.steps r) built.entries := by
  obtain ⟨more, hdocument⟩ := assembleLegacy_eq created t
  refine ⟨(legacySteps t).repair.steps, more, hdocument, ?_⟩
  have hentries := entries_legacySteps h.nodup
  have hkeys := keys_legacySteps h.nodup
  have hend : ∀ id ∈ t.steps.map Step.id, newName t.steps r id = endStep ↔ id = endStep := by
    intro id hid
    rw [newName, if_pos hid]
    obtain ⟨step, hstep, rfl⟩ := List.mem_map.1 hid
    exact h.end_iff step hstep
  have hfixed : newName t.steps r endStep = endStep := by
    by_cases hid : endStep ∈ t.steps.map Step.id
    · exact (hend endStep hid).2 rfl
    · exact if_neg hid
  rw [StepMap.relink]
  refine StepMap.repair_relabel h.newName_eq_empty_iff (hkeys ▸ hend) hfixed ?_ ?_
  · rw [hentries]
    exact StepMap.entries_rename_movedSteps h
  · intro entry hentry key hkey
    rw [hentries] at hentry
    obtain ⟨step, hstep, rfl⟩ := List.mem_map.1 hentry
    rw [hkeys]
    exact h.resolves_renamed hstep (List.mem_map_of_mem hkey)

/-- Two steps of one action and target, and a condition; one reference leads nowhere. -/
def repeated : List Step :=
  [{ id := "a", action := "click", target := some "/btn", next := .str "b" },
    { id := "b", action := "click", target := some "/btn", next := .str "nowhere" },
    { id := "c", action := "condition", ifTrue := .str "a" }]

/-- New names for the first two of the repeated steps. -/
def moveRepeated (id : String) : String :=
  if id = "a" then "first" else if id = "b" then "second" else id

theorem relink_renamed_repeated :
    let t : Transaction := { tcode := "VA01", format := .legacy, steps := repeated }
    Renames t.steps moveRepeated ∧
      ∃ built more, (assembleLegacy .null t).document = documentOf built more ∧
        ((movedSteps t.steps moveRepeated).relink t.steps).steps.entries =
          StepMap.relabel (newName t.steps moveRepeated) built.entries := by
  intro t
  have hrenames : Renames t.steps moveRepeated := by
    refine ⟨by decide, by decide, by decide, by decide, by decide, by decide, ?_⟩
    have hlinks : repeated.flatMap references = [.str "b", .null, .null, .str "nowhere", .null,
        .null, .null, .str "a", .str "end"] := rfl
    have hnew : ∀ step ∈ repeated, moveRepeated step.id ≠ step.id →
        moveRepeated step.id ∉ ["b", "nowhere", "a", "end"] := by decide
    intro step hstep hmoved other hother hlink
    have hmem := List.mem_flatMap.2 ⟨other, hother, hlink⟩
    rw [hlinks] at hmem
    exact hnew step hstep hmoved (by simpa using hmem)
  exact ⟨hrenames, relink_renamed hrenames .null⟩

end Flow

end ReplayFlow
