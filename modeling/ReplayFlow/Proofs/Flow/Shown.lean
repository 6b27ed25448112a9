import ReplayFlow.Proofs.Flow.Carried
import ReplayFlow.Proofs.Flow.Chain
import ReplayFlow.Proofs.Json.Showable
import ReplayFlow.Proofs.Recording.Records

/-!
What the checks on the graph of a flow show of its steps: their actions and references.
In a chain they are names (`allShow_of_chained`), and a carried step has them from its
record (`allShow_stepsOnly`, `allShow_contextual`). So they can be written out if the
document that the flow is made from can.
-/

namespace ReplayFlow.Flow

open Recording
open StepMap (Chained)

variable {limit : Nat} {step : FlowStep} {record : Body} {t : Transaction}
  {records : Entries Body} {contexts : Entries (Entries Body)}

/-- What is shown of a step can be written out. -/
def Shows (limit : Nat) (step : FlowStep) : Prop :=
  ∀ key ∈ "action" :: referenceKeys, (Entries.field step.body key).Showable limit

/-- The steps of a flow document show what can be written out. -/
def AllShow (limit : Nat) (flow : Json) : Prop :=
  ∃ entries, stepEntries? flow = some entries ∧ ∀ step ∈ entries.flatMap stepsAt, Shows limit step

/-! ## Steps of a document -/

theorem shows_of_stepBody? {v : Json} {body : Body} (h : v.Showable (limit + 1))
    (hbody : stepBody? v = some body) (key : String) :
    (Entries.field body key).Showable limit := by
  cases v with
  | obj fields =>
    rw [stepBody?] at hbody
    split at hbody <;> cases hbody
    exact h.field_of_succ key
  | _ => cases hbody

theorem shows_of_mem_stepsAt {entry : String × Json} (h : entry.2.Showable (limit + 1))
    (hstep : step ∈ stepsAt entry) : Shows limit step := by
  unfold stepsAt at hstep
  split at hstep
  · rename_i body _ hbody
    rw [List.mem_singleton.1 hstep]
    exact fun key _ => shows_of_stepBody? h hbody key
  · rename_i members hmembers
    obtain ⟨member, hmember, hfound⟩ := List.mem_filterMap.1 hstep
    obtain ⟨body, hbody, rfl⟩ := Option.map_eq_some_iff.1 hfound
    rw [hmembers] at h
    exact fun key _ => shows_of_stepBody? (h.member hmember) hbody key
  · cases hstep

/-- The steps of entries that leave room for their map. -/
theorem allShow_of_entries {flow : Json} {entries : Entries Json}
    (hentries : stepEntries? flow = some entries)
    (h : ∀ entry ∈ entries, entry.2.Showable (limit + 1)) : AllShow limit flow := by
  refine ⟨entries, hentries, fun step hstep => ?_⟩
  obtain ⟨entry, hentry, hstep⟩ := List.mem_flatMap.1 hstep
  exact shows_of_mem_stepsAt (h entry hentry) hstep

/-! ## Chains -/

/-- A chain shows nothing but names. -/
theorem allShow_of_chained {steps : StepMap} (h : Chained steps.entries) (limit : Nat)
    (more : Entries Json) : AllShow limit (documentOf steps more) := by
  have hshown {v : Option Json} (hv : v = none ∨ ∃ s, v = some (.str s)) :
      (v.getD .null).Showable limit := by
    rcases hv with rfl | ⟨s, rfl⟩
    · exact ⟨Nat.zero_le _, Nat.zero_le _⟩
    · exact Json.showable_str limit s
  refine ⟨_, stepEntries?_documentOf, ?_⟩
  rw [flatMap_stepsAt fun entry hmem => (passes_of_chained h entry hmem).action]
  intro step hstep
  obtain ⟨entry, hentry, rfl⟩ := List.mem_map.1 hstep
  intro key hkey
  refine hshown ?_
  rcases StepMap.chained_cases h steps.nodup hentry with ⟨_, hends⟩ | ⟨_, next, _, _, hgoes⟩
  · rcases List.mem_cons.1 hkey with rfl | hreference
    · exact .inr ⟨_, hends.action⟩
    · exact .inl (hends.references key hreference)
  · rcases List.mem_cons.1 hkey with rfl | hreference
    · obtain ⟨action, haction, _⟩ := hgoes.action
      exact .inr ⟨action, haction⟩
    · rcases hgoes.reference hreference with ⟨rfl, _⟩ | ⟨_, hnone⟩
      · exact .inr ⟨next, hgoes.next⟩
      · exact .inl hnone

/-! ## Carried steps -/

/-- The body of a carried step has its fields from a record. -/
theorem showable_carriedBody {step : Step} (h : (Json.obj record).Showable limit)
    (hfields : step.fields = Body.otherFields record) :
    (Json.obj (carriedBody step)).Showable limit := by
  obtain ⟨n, rfl⟩ := h.exists_succ_of_obj
  refine Json.showable_obj_iff.2 fun field hfield => ?_
  rw [carriedBody, hfields] at hfield
  rcases Entries.mem_insertAll hfield with haction | hother
  · rw [List.mem_singleton.1 haction]
    exact Json.showable_str n _
  · exact Json.showable_obj_iff.1 h field (List.mem_filter.1 hother).1

theorem eq_of_mem_given {key : String} {value : Json} {field : String × Json}
    (h : field ∈ given key value) : field = (key, value) := by
  unfold given at h
  split at h
  · exact List.mem_singleton.1 h
  · cases h

/-- The body of a start has nothing but texts. -/
theorem showable_start (first : String) (limit : Nat) :
    (Json.obj (freeBody (Step.start first))).Showable (limit + 1) := by
  refine Json.showable_obj_iff.2 fun field hfield => ?_
  have htext : ∃ s, field.2 = .str s := by
    rw [freeBody, List.mem_append, List.mem_append, List.mem_append] at hfield
    rcases hfield with ((haction | hmethod) | hparam) | hnext
    · rw [List.mem_singleton.1 haction]
      exact ⟨_, rfl⟩
    · rw [eq_of_mem_given hmethod]
      exact ⟨_, rfl⟩
    · rw [eq_of_mem_given hparam]
      exact ⟨_, rfl⟩
    · rw [eq_of_mem_given hnext]
      exact ⟨_, rfl⟩
  obtain ⟨s, hs⟩ := htext
  rw [hs]
  exact Json.showable_str limit s

namespace Grouped

/-- The bodies of a grouping can be written out, those in a context with room for its map. -/
structure Showable (limit : Nat) (g : Grouped) : Prop where
  free : ∀ entry ∈ g.free.entries, (Json.obj entry.2).Showable (limit + 1)
  contexts : ∀ context ∈ g.contexts.entries, ∀ entry ∈ context.2.entries,
    (Json.obj entry.2).Showable limit

variable {g : Grouped}

theorem Showable.add (h : g.Showable limit) {step : Step}
    (hfree : step.context = none → (Json.obj (freeBody step)).Showable (limit + 1))
    (hcarried : (Json.obj (carriedBody step)).Showable limit) : (g.add step).Showable limit := by
  unfold Grouped.add
  split
  · rename_i hcontext
    refine ⟨fun entry hentry => ?_, h.contexts⟩
    rcases Entries.mem_insert hentry with rfl | hold
    · exact hfree hcontext
    · exact h.free entry hold
  · rename_i context hcontext
    refine ⟨h.free, fun placed hplaced entry hentry => ?_⟩
    rcases Entries.mem_insert hplaced with rfl | hold
    · rcases Entries.mem_insert hentry with rfl | hentry
      · exact hcarried
      · cases hget : g.contexts.get? context with
        | none =>
          rw [hget] at hentry
          cases hentry
        | some steps =>
          rw [hget] at hentry
          exact h.contexts _ (OrderedMap.get?_eq_some_iff.1 hget) entry hentry
    · exact h.contexts placed hold entry hentry

theorem Showable.foldl {steps : List Step}
    (hsteps : ∀ step ∈ steps,
      (step.context = none → (Json.obj (freeBody step)).Showable (limit + 1)) ∧
        (Json.obj (carriedBody step)).Showable limit)
    (h : g.Showable limit) : (steps.foldl Grouped.add g).Showable limit := by
  induction steps generalizing g with
  | nil => exact h
  | cons step rest ih =>
    obtain ⟨⟨hfree, hcarried⟩, hrest⟩ := List.forall_mem_cons.1 hsteps
    exact ih hrest (h.add hfree hcarried)

end Grouped

/-! ## Carried flows -/

/-- The flow of a steps-only recording shows what its records hold. -/
theorem allShow_stepsOnly (hformat : t.format = .stepsOnly)
    (hsteps : t.steps = records.map fun record => carriedStep record.1 record.2)
    (h : ∀ record ∈ records, (Json.obj record.2).Showable limit) (created : Json) :
    AllShow limit (assemble created t).document := by
  rw [assemble, hformat]
  refine allShow_of_entries stepEntries?_documentOf fun entry hentry => ?_
  obtain ⟨⟨id, body⟩, hbody, rfl⟩ := List.mem_map.1 hentry
  obtain ⟨step, hstep, hplaced⟩ := List.mem_map.1 (Entries.mem_of_mem_ofList hbody)
  rw [hsteps] at hstep
  obtain ⟨record, hrecord, rfl⟩ := List.mem_map.1 hstep
  cases hplaced
  exact (showable_carriedBody (h record hrecord) rfl).mono (Nat.le_succ limit)

/-- The flow of a contextual recording shows what its records hold, and at its start texts. -/
theorem allShow_contextual {first : String} (hformat : t.format = .contextual)
    (hsteps : t.steps = Step.start first :: Recording.contextSteps contexts)
    (h : ∀ context ∈ contexts, ∀ record ∈ context.2, (Json.obj record.2).Showable limit)
    (created : Json) : AllShow limit (assemble created t).document := by
  have hstart : (Grouped.add {} (Step.start first)).Showable limit :=
    ⟨fun entry hentry => List.mem_singleton.1 hentry ▸ showable_start first limit, nofun⟩
  have hgrouped : (t.steps.foldl Grouped.add {}).Showable limit := by
    rw [hsteps, List.foldl_cons]
    refine Grouped.Showable.foldl (fun step hstep => ?_) hstart
    obtain ⟨context, hcontext, hstep⟩ := List.mem_flatMap.1 hstep
    obtain ⟨record, hrecord, rfl⟩ := List.mem_map.1 hstep
    exact ⟨nofun, showable_carriedBody (h context hcontext record hrecord) rfl⟩
  rw [assemble, hformat]
  refine allShow_of_entries rfl fun entry hentry => ?_
  rcases Entries.mem_insertAll hentry with hfree | hcontext
  · obtain ⟨placed, hplaced, rfl⟩ := List.mem_map.1 hfree
    exact hgrouped.free placed hplaced
  · obtain ⟨context, hplaced, rfl⟩ := List.mem_map.1 hcontext
    refine Json.showable_obj_iff.2 fun member hmember => ?_
    obtain ⟨placed, hbody, rfl⟩ := List.mem_map.1 hmember
    exact hgrouped.contexts context hplaced placed hbody

end ReplayFlow.Flow
