import ReplayFlow.Proofs.Alias.Generation
import ReplayFlow.Proofs.Recording.Registry

/-!
What a name stands for before and after names are shared. A reader of a space
looks into it first and into the shared space after it (`lookUp?`). Sharing
changes what such a reader finds in one case only: the space is the shared one,
a transaction of its code has a path under the name, and two others agree on
another path for it (`lookUp?_consolidate_iff`, `Overwritten`). The path of that
transaction is then lost, and nothing is reported.
-/

namespace ReplayFlow

namespace AliasTable

variable {t : AliasTable String} {space name path : String}

/-- The written path that a reader of a space finds under a name. -/
def lookUp? (t : AliasTable String) (space name : String) : Option String :=
  [space, sharedSpace].findSome? fun space => t.find? space name

/-- The name has a path in the shared space, and the other transactions agree on another. -/
def Overwritten (t : AliasTable String) (space name path : String) : Prop :=
  space = sharedSpace ∧ ∃ other, Agreed (definers t.ownSpaces name) other ∧ other ≠ path

theorem lookUp?_shared (t : AliasTable String) (name : String) :
    t.lookUp? sharedSpace name = t.find? sharedSpace name := by
  unfold lookUp?
  cases h : t.find? sharedSpace name <;> simp [h]

theorem lookUp?_consolidate_iff (h : t.find? space name = some path) :
    t.consolidate.1.lookUp? space name = some path ↔ ¬ Overwritten t space name path := by
  by_cases hspace : space = sharedSpace
  · subst hspace
    rw [lookUp?_shared]
    by_cases hagreed : ∃ other, Agreed (definers t.ownSpaces name) other
    · obtain ⟨other, hother⟩ := hagreed
      rw [find?_consolidate_of_agreed hother, if_pos rfl, Option.some.injEq]
      constructor
      · rintro rfl ⟨_, another, hanother, hne⟩
        exact hne (agreed_unique hanother hother)
      · intro hkept
        exact Classical.byContradiction fun hne => hkept ⟨rfl, other, hother, hne⟩
    · rw [find?_consolidate_of_kept fun other hother => hagreed ⟨other, hother⟩, h]
      refine iff_of_true rfl ?_
      rintro ⟨_, other, hother, _⟩
      exact hagreed ⟨other, hother⟩
  · exact iff_of_true (findSome?_consolidate hspace h) fun hover => hspace hover.1

end AliasTable

namespace Sample

def recording (tcode control : String) : Json :=
  .obj [("Tcode", .str tcode), ("Steps", .arr [event "Input" control "1"])]

/-- A transaction of the shared code, and two others that agree on another control of its name. -/
def colliding : OrderedMap Transaction :=
  let documents : OrderedMap Json := .ofList
    [("main.json", recording "main" "/app/con[0]/ses[0]/wnd[0]/usr/sub/ctxtF1"),
      ("a.json", recording "a" "/app/con[0]/ses[0]/wnd[0]/usr/ctxtF1"),
      ("b.json", recording "b" "/app/con[0]/ses[0]/wnd[0]/usr/ctxtF1")]
  (({} : Batch).addAll (documents.entries.map Entry.ofDocument)).1.transactions

end Sample

namespace Alias

open AliasTable (Overwritten)

variable {transactions : OrderedMap Transaction} {named : Transaction} {tcode name : String}
variable {step : Step}

/-- A name on a step is the name of its target in the space of its transaction. -/
theorem find?_of_named
    (hfresh : ∀ t ∈ transactions.values, ∀ step ∈ t.steps, step.aliasName = none)
    (hget : (generate transactions).transactions.get? tcode = some named)
    (hstep : step ∈ named.steps) (hname : step.aliasName = some name) :
    ∃ path, step.target = some path ∧
      (unshared (chooseHeads transactions.values) transactions).find? tcode name =
        some (shorten (chooseHeads transactions.values) path) := by
  have hmapped : (transactions.get? tcode).map
      (fun t => (Naming.ofTransaction (chooseHeads transactions.values) t).nameSteps t) =
        some named := by
    rw [← OrderedMap.get?_mapValues]
    exact hget
  obtain ⟨t, ht, rfl⟩ := Option.map_eq_some_iff.1 hmapped
  obtain ⟨source, hsource, rfl⟩ := List.mem_map.1 hstep
  have hnone := hfresh t (OrderedMap.mem_values_of_get? ht) source hsource
  obtain ⟨path, htarget, hpath⟩ := Naming.names_of_nameStep hnone hname
  refine ⟨path, (Naming.target_nameStep _ source).trans htarget, ?_⟩
  rw [find?_unshared, ht]
  exact Naming.space_of_names hpath

/-- **Sharing keeps every name that is not overwritten**, in any table and on the steps of any
batch. -/
theorem sharing_keeps_names (t : AliasTable String) (transactions : OrderedMap Transaction)
    (hfresh : ∀ t ∈ transactions.values, ∀ step ∈ t.steps, step.aliasName = none) :
    (∀ space name path, t.find? space name = some path →
      (t.consolidate.1.lookUp? space name = some path ↔ ¬ Overwritten t space name path)) ∧
    let heads := chooseHeads transactions.values
    ∀ tcode named, (generate transactions).transactions.get? tcode = some named →
      ∀ step ∈ named.steps, ∀ name, step.aliasName = some name →
        ∃ path, step.target = some path ∧
          ((generate transactions).table.lookUp? tcode name = some (shorten heads path) ↔
            ¬ Overwritten (unshared heads transactions) tcode name (shorten heads path)) ∧
          ('\x7b' ∉ path.toList → expand heads (shorten heads path) = path) := by
  refine ⟨fun _ _ _ h => AliasTable.lookUp?_consolidate_iff h, ?_⟩
  intro heads tcode named hget step hstep name hname
  obtain ⟨path, htarget, hfind⟩ := find?_of_named hfresh hget hstep hname
  exact ⟨path, htarget, AliasTable.lookUp?_consolidate_iff hfind,
    expand_shorten (wordKeys_chooseHeads _)⟩

/-- The table of the batch before names are shared. -/
def collidingTable : AliasTable String :=
  unshared (chooseHeads Sample.colliding.values) Sample.colliding

theorem sharing_keeps_names_colliding :
    (∀ t ∈ Sample.colliding.values, ∀ step ∈ t.steps, step.aliasName = none) ∧
      (Overwritten collidingTable "main" "filter.f1" "\x7b\x7busr\x7d\x7dsub/ctxtF1" ∧
        collidingTable.consolidate.1.lookUp? "main" "filter.f1" ≠
          some "\x7b\x7busr\x7d\x7dsub/ctxtF1") ∧
      ¬ Overwritten collidingTable "a" "filter.f1" "\x7b\x7busr\x7d\x7dctxtF1" ∧
        collidingTable.consolidate.1.lookUp? "a" "filter.f1" =
          some "\x7b\x7busr\x7d\x7dctxtF1" := by
  have hfresh : ∀ t ∈ Sample.colliding.values, ∀ step ∈ t.steps, step.aliasName = none := by
    have hnames : Sample.colliding.values.map (fun t => t.steps.map Step.aliasName) =
        [[none, none, none], [none, none, none], [none, none, none]] := by rfl
    intro t ht step hstep
    have hrow := List.mem_map_of_mem (f := fun t => t.steps.map Step.aliasName) ht
    have hname := List.mem_map_of_mem (f := Step.aliasName) hstep
    rw [hnames] at hrow
    simp only [List.mem_cons, List.not_mem_nil, or_false, or_self] at hrow
    rw [hrow] at hname
    simpa using hname
  have hkeeps := (sharing_keeps_names collidingTable Sample.colliding hfresh).1
  have hmain := hkeeps "main" "filter.f1" "\x7b\x7busr\x7d\x7dsub/ctxtF1" (by rfl)
  have ha := hkeeps "a" "filter.f1" "\x7b\x7busr\x7d\x7dctxtF1" (by rfl)
  have hdefiners : AliasTable.definers collidingTable.ownSpaces "filter.f1" =
      [("a", "\x7b\x7busr\x7d\x7dctxtF1"), ("b", "\x7b\x7busr\x7d\x7dctxtF1")] := by rfl
  have hover : Overwritten collidingTable "main" "filter.f1"
      "\x7b\x7busr\x7d\x7dsub/ctxtF1" := by
    refine ⟨rfl, "\x7b\x7busr\x7d\x7dctxtF1", ?_, by decide⟩
    rw [hdefiners]
    exact ⟨by decide, by simp⟩
  have hkept : ¬ Overwritten collidingTable "a" "filter.f1"
      "\x7b\x7busr\x7d\x7dctxtF1" := fun h => absurd h.1 (by decide)
  exact ⟨hfresh, ⟨hover, fun h => hmain.1 h hover⟩, hkept, ha.2 hkept⟩

/-- The path of one transaction is lost without a report, and its step is led elsewhere. -/
theorem sharing_loses_name :
    collidingTable.find? "main" "filter.f1" = some "\x7b\x7busr\x7d\x7dsub/ctxtF1" ∧
      collidingTable.consolidate.1.lookUp? "main" "filter.f1" =
        some "\x7b\x7busr\x7d\x7dctxtF1" ∧
      collidingTable.consolidate.1.conflicts.keys = [] ∧
      ((generate Sample.colliding).transactions.get? "main").map
          (fun t => t.steps.map fun step => (step.target, step.aliasName)) =
        some [(none, none),
          (some "/app/con[0]/ses[0]/wnd[0]/usr/sub/ctxtF1", some "filter.f1"), (none, none)] ∧
      (generate Sample.colliding).table.resolve "filter.f1" (some "main") =
        some "/app/con[0]/ses[0]/wnd[0]/usr/ctxtF1" :=
  ⟨by rfl, by rfl, by rfl, by rfl, by rfl⟩

end Alias

end ReplayFlow
