import Mathlib.Data.List.Nodup
import ReplayFlow.Proofs.Flow.Enumeration

/-!
Broken references of contextual recordings. A step of a recording may name the
start, the end, any step by its id and a step of its own context by its name
(`Known`); a field that is filled in otherwise is broken unless the step is an exit
(`Broken`). Where the name of no context has a dot, an id has its context before
its first dot (`compound_inj`), so what the checks look up among the ids is what is
known (`linkResolves_iff_known`), and they report the broken references of a
recording and no others, in the order of its steps (`validate_reports_broken`).
-/

namespace ReplayFlow.Flow

open Recording

variable {contexts : Entries (Entries Body)} {context : String × Entries Body} {record : Body}
  {key : String}

/-! ## Broken references -/

/-- What a reference at a step of a context may say. -/
def Known (contexts : Entries (Entries Body)) (context : String × Entries Body) : Json → Prop
  | .str text => text = endStep ∨ text = startStep ∨ text ∈ stepIds contexts ∨
      text ∈ Entries.keys context.2
  | _ => False

instance : ∀ reference, Decidable (Known contexts context reference)
  | .str text => inferInstanceAs (Decidable (text = endStep ∨ text = startStep ∨
      text ∈ stepIds contexts ∨ text ∈ Entries.keys context.2))
  | .null | .bool _ | .int _ | .float _ | .arr _ | .obj _ => inferInstanceAs (Decidable False)

/-- A field of a record, at a step of a context that is no exit, that is filled in with nothing
that is known there. -/
structure Broken (contexts : Entries (Entries Body)) (context : String × Entries Body)
    (record : Body) (key : String) : Prop where
  going : Action.normalize (Entries.field record "action") ≠ "exit"
  filled : (Entries.field record key).isNull = false
  unknown : ¬Known contexts context (Entries.field record key)

theorem broken_iff : Broken contexts context record key ↔
    Action.normalize (Entries.field record "action") ≠ "exit" ∧
      (Entries.field record key).isNull = false ∧
        ¬Known contexts context (Entries.field record key) :=
  ⟨fun h => ⟨h.going, h.filled, h.unknown⟩, fun h => ⟨h.1, h.2.1, h.2.2⟩⟩

instance : Decidable (Broken contexts context record key) := decidable_of_iff _ broken_iff.symm

/-- What is to be said of a field of a record. -/
def brokenLink? (contexts : Entries (Entries Body)) (context : String × Entries Body)
    (record : String × Body) (key : String) : Option Violation :=
  if Broken contexts context record.2 key then
    some ⟨context.1 ++ "." ++ record.1,
      .danglingReference key (Entries.field record.2 key).display⟩
  else none

/-- The broken references of a recording, step by step and at each step field by field. -/
def brokenLinks (contexts : Entries (Entries Body)) : List Violation :=
  contexts.flatMap fun context => context.2.flatMap fun record =>
    referenceKeys.filterMap (brokenLink? contexts context record)

/-! ## Ids of steps -/

theorem takeWhile_ne_dot {text rest : List Char} (h : '.' ∉ text) :
    (text ++ '.' :: rest).takeWhile (· ≠ '.') = text := by
  have hletters : ∀ c ∈ text, decide (c ≠ '.') = true :=
    fun c hc => decide_eq_true fun hdot => h (hdot ▸ hc)
  rw [List.takeWhile_append_of_pos hletters, List.takeWhile_cons_of_neg (by decide),
    List.append_nil]

/-- An id is of one context and one name: the context ends where the first dot is. -/
theorem compound_inj {context other name more : String} (h : '.' ∉ context.toList)
    (hother : '.' ∉ other.toList) (e : context ++ "." ++ name = other ++ "." ++ more) :
    context = other ∧ name = more := by
  have hchars : context.toList ++ '.' :: name.toList = other.toList ++ '.' :: more.toList := by
    simpa using congrArg String.toList e
  have hcontext : context.toList = other.toList := by
    rw [← takeWhile_ne_dot h, hchars, takeWhile_ne_dot hother]
  rw [hcontext] at hchars
  obtain ⟨_, hname⟩ := List.cons.inj (List.append_cancel_left hchars)
  exact ⟨String.toList_inj.1 hcontext, String.toList_inj.1 hname⟩

/-- The ids that start with a context are those of its own steps. -/
theorem mem_stepIds_iff (hkeys : (Entries.keys contexts).Nodup)
    (hdots : ∀ context ∈ contexts, '.' ∉ context.1.toList) (hcontext : context ∈ contexts)
    {name : String} :
    context.1 ++ "." ++ name ∈ stepIds contexts ↔ name ∈ Entries.keys context.2 := by
  rw [stepIds, List.mem_flatMap]
  constructor
  · rintro ⟨other, hother, hid⟩
    obtain ⟨more, hmore, e⟩ := List.mem_map.1 hid
    obtain ⟨hsame, rfl⟩ := compound_inj (hdots other hother) (hdots context hcontext) e
    obtain rfl := List.inj_on_of_nodup_map hkeys hother hcontext hsame
    exact hmore
  · intro hname
    exact ⟨context, hcontext, List.mem_map_of_mem hname⟩

/-- What the checks look up at a step of a context is known there, and the other way round. -/
theorem linkResolves_iff_known (hkeys : (Entries.keys contexts).Nodup)
    (hdots : ∀ context ∈ contexts, '.' ∉ context.1.toList) (hcontext : context ∈ contexts)
    (reference : Json) :
    linkResolves (startStep :: stepIds contexts) (some context.1) reference = true ↔
      Known contexts context reference := by
  cases reference with
  | str text =>
    have hstart : context.1 ++ "." ++ text ≠ startStep := compound_ne (by decide) _ _
    simp only [linkResolves, Known, List.mem_cons, hstart, false_or,
      mem_stepIds_iff hkeys hdots hcontext, Bool.or_eq_true, decide_eq_true_eq, or_assoc]
  | _ => simp [linkResolves, Known]

/-! ## What is found at a step -/

theorem field_ofRecord (hn : (Entries.keys record).Nodup) (hkey : key ∈ referenceKeys) :
    Entries.field (Body.ofRecord record) key = Entries.field record key := by
  have hne : key ≠ "action" ∧ key ≠ "id" := by
    revert key
    decide
  rw [Body.ofRecord, Entries.field, Entries.get?, if_neg (Ne.symm hne.1), Body.otherFields,
    Entries.get?_filter hn, Entries.field]
  cases Entries.get? record key <;> simp [Option.filter, hne]

theorem isExit_ofRecord_iff (record : Body) :
    Body.isExit (Body.ofRecord record) = true ↔
      Action.normalize (Entries.field record "action") = "exit" := by
  simp [Body.isExit, Body.hasAction, Body.ofRecord, Entries.field, Entries.get?, Json.string?]

/-- The references that are reported, among all that is found. -/
def dangling (found : List Violation) : List Violation :=
  found.filter fun v => v.defect.name = "dangling_reference"

theorem dangling_stepViolations (ids : List String) (step : FlowStep) :
    dangling (stepViolations ids step) =
      if step.isExit then [] else (danglingLinks ids step).map (⟨step.id, ·⟩) := by
  unfold stepViolations
  split
  · rfl
  · have hlinks : ∀ defect ∈ danglingLinks ids step, defect.name = "dangling_reference" := by
      intro defect hmem
      obtain ⟨key, _, hkey⟩ := List.mem_filterMap.1 hmem
      dsimp only at hkey
      split at hkey
      · cases hkey
      · cases hkey
        rfl
    have hmissing : ∀ defect ∈ missingLinks step, defect.name ≠ "dangling_reference" := by
      intro defect hmem
      unfold missingLinks at hmem
      dsimp only at hmem
      split at hmem <;> split at hmem <;> simp_all [Defect.name]
    rw [List.map_append, dangling, List.filter_append, List.filter_eq_self.2 (by simpa using hlinks),
      List.filter_eq_nil_iff.2 (by simpa using hmissing), List.append_nil]

theorem dangling_exitViolations (exits : List String) : dangling (exitViolations exits) = [] := by
  unfold exitViolations
  split
  · rfl
  · split <;> rfl

/-- At a step of a context the checks report the broken references of its record. -/
theorem dangling_memberStep (hkeys : (Entries.keys contexts).Nodup)
    (hdots : ∀ context ∈ contexts, '.' ∉ context.1.toList) (hcontext : context ∈ contexts)
    {record : String × Body} (hn : (Entries.keys record.2).Nodup) :
    dangling (stepViolations (startStep :: stepIds contexts) (memberStep context.1 record)) =
      referenceKeys.filterMap (brokenLink? contexts context record) := by
  have hgoes : (memberStep context.1 record).isExit = true ↔ _ := isExit_ofRecord_iff record.2
  rw [dangling_stepViolations]
  by_cases hexit : Action.normalize (Entries.field record.2 "action") = "exit"
  · have hnone : ∀ key ∈ referenceKeys, brokenLink? contexts context record key = none :=
      fun key _ => if_neg fun hbroken => hbroken.going hexit
    rw [if_pos (hgoes.2 hexit), List.filterMap_eq_nil_iff.2 hnone]
  · rw [if_neg (mt hgoes.1 hexit), danglingLinks, List.map_filterMap]
    refine List.filterMap_congr fun key hkey => ?_
    have hfield := field_ofRecord hn hkey
    have hknown := linkResolves_iff_known hkeys hdots hcontext (Entries.field record.2 key)
    by_cases hbroken : Broken contexts context record.2 key
    · have hlink := mt hknown.1 hbroken.unknown
      simp [brokenLink?, hbroken, memberStep, hfield, hbroken.filled, hlink]
    · have hsilent : (Entries.field record.2 key).isNull = true ∨
          linkResolves (startStep :: stepIds contexts) (some context.1)
            (Entries.field record.2 key) = true := by
        rw [hknown]
        by_contra hneither
        rw [not_or, Bool.not_eq_true] at hneither
        exact hbroken ⟨hexit, hneither.1, hneither.2⟩
      simp only [brokenLink?, hbroken, memberStep, hfield, if_false]
      rw [if_pos (by simpa using hsilent)]
      rfl

/-! ## What is found in a flow -/

/-- The start of a contextual flow goes on to a step or to the end, and it has no branches. -/
theorem dangling_start (contexts : Entries (Entries Body)) :
    dangling (stepViolations (startStep :: stepIds contexts) (startFlowStep contexts)) = [] := by
  have hnext := start_resolves contexts
  rw [map_id_allSteps] at hnext
  have hbranch : ∀ key ∈ ["true", "false"], Entries.field (startBody contexts) key = .null := by
    intro key hkey
    have hne : "next" ≠ key ∧ "method" ≠ key ∧ "paramKey" ≠ key ∧ "action" ≠ key := by
      revert key
      decide
    simp [startBody, freeBody, Entries.field, Entries.get?, Entries.get?_append,
      get?_given_of_ne, hne]
  have hlinks : danglingLinks (startStep :: stepIds contexts) (startFlowStep contexts) = [] := by
    refine List.filterMap_eq_nil_iff.2 fun key hkey => ?_
    rcases List.mem_cons.1 hkey with rfl | hkey
    · simp [startFlowStep, hnext]
    · simp [startFlowStep, hbranch key hkey, Json.isNull]
  rw [dangling_stepViolations, hlinks, List.map_nil, ite_self]

theorem dangling_violationsOf (hkeys : (Entries.keys contexts).Nodup)
    (hdots : ∀ context ∈ contexts, '.' ∉ context.1.toList)
    (hn : ∀ context ∈ contexts, ∀ record ∈ context.2, (Entries.keys record.2).Nodup) :
    dangling (violationsOf (allSteps contexts)) = brokenLinks contexts := by
  have hexits := dangling_exitViolations
    (((allSteps contexts).filter FlowStep.isExit).map FlowStep.id)
  have hstart := dangling_start contexts
  rw [dangling] at hexits hstart
  rw [dangling, violationsOf, List.filter_append, hexits, List.append_nil, map_id_allSteps,
    List.filter_flatMap, allSteps, List.flatMap_cons, hstart, List.nil_append,
    List.flatMap_assoc, brokenLinks]
  refine List.flatMap_congr fun context hcontext => ?_
  rw [List.flatMap_map]
  refine List.flatMap_congr fun record hrecord => ?_
  rw [← dangling_memberStep hkeys hdots hcontext (hn context hcontext record hrecord), dangling]

theorem mem_brokenLinks {v : Violation} :
    v ∈ brokenLinks contexts ↔ ∃ context ∈ contexts, ∃ record ∈ context.2, ∃ key ∈ referenceKeys,
      Broken contexts context record.2 key ∧ ⟨context.1 ++ "." ++ record.1,
        .danglingReference key (Entries.field record.2 key).display⟩ = v := by
  simp only [brokenLinks, brokenLink?, List.mem_flatMap, List.mem_filterMap,
    Option.ite_none_right_eq_some, Option.some.injEq]

/-- A report stands at the step and the field it is about. -/
theorem reported_iff (hkeys : (Entries.keys contexts).Nodup)
    (hnames : ∀ context ∈ contexts, (Entries.keys context.2).Nodup)
    (hdots : ∀ context ∈ contexts, '.' ∉ context.1.toList) (hcontext : context ∈ contexts)
    {record : String × Body} (hrecord : record ∈ context.2) (hkey : key ∈ referenceKeys) :
    (∃ reference, ⟨context.1 ++ "." ++ record.1, .danglingReference key reference⟩ ∈
        brokenLinks contexts) ↔ Broken contexts context record.2 key := by
  simp only [mem_brokenLinks]
  constructor
  · rintro ⟨reference, other, hother, more, hmore, field, _, hbroken, e⟩
    obtain ⟨hid, hdefect⟩ := Violation.mk.inj e
    obtain ⟨hsame, hname⟩ := compound_inj (hdots other hother) (hdots context hcontext) hid
    obtain rfl := (Defect.danglingReference.inj hdefect).1
    obtain rfl := List.inj_on_of_nodup_map hkeys hother hcontext hsame
    obtain rfl := List.inj_on_of_nodup_map (hnames other hother) hmore hrecord hname
    exact hbroken
  · intro hbroken
    exact ⟨_, context, hcontext, record, hrecord, key, hkey, hbroken, rfl⟩

/-- **Broken references are reported exactly.** In the flow of an accepted contextual document
the checks report the broken references of its records and no others, step by step and at each
step field by field, and the start is not reported. -/
theorem validate_reports_broken {document : Json} {tcode : String} {t : Transaction}
    (hformat : Format.detect document = .contextual) (hd : document.Distinct)
    (h : (Recording.ofDocument document tcode).normalize = .ok t) (created : Json) :
    ∃ contexts, HasContexts document contexts ∧
      ((∀ context ∈ contexts, '.' ∉ context.1.toList ∧
          "" ∉ Entries.keys context.2 ∧ "action" ∉ Entries.keys context.2) →
        ∃ found, validate (assemble created t).document = .ok found ∧
          dangling found = brokenLinks contexts ∧
          (∀ context ∈ contexts, ∀ record ∈ context.2, ∀ key ∈ referenceKeys,
            ((∃ reference, ⟨context.1 ++ "." ++ record.1, .danglingReference key reference⟩ ∈
              found) ↔ Broken contexts context record.2 key)) ∧
          ∀ v ∈ dangling found, v.step ≠ startStep) := by
  obtain ⟨contexts, hcontexts, hnames, hentries⟩ := exists_contextualEntries hformat hd h created
  obtain ⟨hkeys, hrecords⟩ := nodup_of_distinct hd hcontexts
  refine ⟨contexts, hcontexts, fun hplain => ?_⟩
  have hdots := fun context hcontext => (hplain context hcontext).1
  have hfields := fun context hcontext => (hrecords context hcontext).2
  rw [(contextualEntries_eq_iff hnames).2 fun context hcontext => (hplain context hcontext).2.1]
    at hentries
  have hseen := steps_of_entries hentries
  rw [flatMap_faithfulEntries, seenFlow_eq_iff.2 fun context hcontext =>
    (hplain context hcontext).2.2] at hseen
  have hfound := dangling_violationsOf hkeys hdots hfields
  refine ⟨violationsOf (allSteps contexts), validate_of_steps hseen, hfound, ?_, ?_⟩
  · intro context hcontext record hrecord key hkey
    rw [← reported_iff hkeys hnames hdots hcontext hrecord hkey, ← hfound]
    refine exists_congr fun reference => ?_
    simp [dangling, Defect.name]
  · intro v hv
    rw [hfound] at hv
    obtain ⟨context, _, record, _, _, _, _, rfl⟩ := mem_brokenLinks.1 hv
    exact compound_ne (by decide) context.1 record.1

/-- References to a neighbour, to another context and to nothing, and an exit that goes on. -/
def strayContexts : Entries (Entries Body) :=
  [("order", [
      ("fill", [("action", .str "input"), ("next", .str "check"), ("true", .null)]),
      ("check", [("action", .str "condition"), ("true", .str "done.stop"),
        ("false", .str "lost")])]),
    ("done", [
      ("late", [("action", .str "click"), ("next", .int 3)]),
      ("stop", [("action", .str "exit"), ("next", .str "lost")])])]

theorem validate_reports_broken_stray :
    Format.detect (contextualDocument strayContexts) = .contextual ∧
      (contextualDocument strayContexts).Distinct ∧
      ∃ t, (Recording.ofDocument (contextualDocument strayContexts) "zc").normalize = .ok t ∧
        ∃ found, validate (assemble .null t).document = .ok found ∧
          dangling found = [⟨"order.check", .danglingReference "false" "lost"⟩,
            ⟨"done.late", .danglingReference "next" "3"⟩] := by
  have hd : (contextualDocument strayContexts).Distinct := by
    simp [contextualDocument, strayContexts, Json.Distinct, Json.DistinctFields, Entries.keys,
      Entries.mapValues]
  have hnormalize : ∃ t, (Recording.ofDocument (contextualDocument strayContexts) "zc").normalize =
      .ok t := ⟨_, rfl⟩
  obtain ⟨t, ht⟩ := hnormalize
  have hstray : HasContexts (contextualDocument strayContexts) strayContexts := ⟨_, rfl, rfl⟩
  obtain ⟨contexts, hcontexts, hreports⟩ := validate_reports_broken rfl hd ht .null
  cases hcontexts.unique hstray
  obtain ⟨found, hfound, hdangling, _⟩ := hreports (by simp [strayContexts, Entries.keys])
  have hlinks : brokenLinks strayContexts = [⟨"order.check", .danglingReference "false" "lost"⟩,
      ⟨"done.late", .danglingReference "next" "3"⟩] := by decide
  exact ⟨rfl, hd, t, ht, found, hfound, hdangling.trans hlinks⟩

end ReplayFlow.Flow
