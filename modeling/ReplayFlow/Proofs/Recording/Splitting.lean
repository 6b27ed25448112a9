import ReplayFlow.Proofs.Recording.Grouping

/-!
Grouping and the place where a recording is cut. Behind an open event only the
groups of what follows count (`groupFrom_eq_behind`), so the groups of two
recordings in a row are those of each, but for an input that is cut in two, which is
one group (`Joined`). No two neighbouring groups go on with each other, so groups
are their own groups (`group_group`).
-/

namespace ReplayFlow

namespace Event

variable {before last e : Event} {events : List Event}

/-- Two events are inputs into one control. -/
structure SameInput (before e : Event) : Prop where
  first : before.action = "input" ∨ before.action = "set"
  second : e.action = "input" ∨ e.action = "set"
  control : before.controlId = e.controlId

/-- Groups with more groups behind them. Where the last of the first and the first of the second
are inputs into one control they are one group: the former with the value of the latter. -/
inductive Joined : List Event → List Event → List Event → Prop
  | apart (groups more : List Event) :
      (∀ last ∈ groups.getLast?, ∀ e ∈ more.head?, ¬SameInput last e) →
      Joined groups more (groups ++ more)
  | merged {groups more : List Event} {last e : Event} : SameInput last e →
      Joined (groups ++ [last]) (e :: more) (groups ++ { last with value := e.value } :: more)

theorem sameInput_iff (hbefore : before.Settled) (he : e.Settled) :
    SameInput before e ↔ continues before e = true := by
  rw [continues_iff hbefore he, isInput, isInput, Bool.or_eq_true, Bool.or_eq_true,
    decide_eq_true_eq, decide_eq_true_eq, decide_eq_true_eq, decide_eq_true_eq]
  exact ⟨fun h => ⟨h.first, h.second, h.control⟩, fun h => ⟨h.1, h.2.1, h.2.2⟩⟩

/-! ## Behind an open event -/

/-- Of two events that other events go on with alike, the groups differ in the first alone, and
there not in the value. -/
theorem exists_groupFrom_of_alike (h : ∀ next, continues before next = continues e next)
    (hvalue : before.value = e.value) (events : List Event) :
    ∃ value rest, groupFrom before events = { before with value } :: rest ∧
      groupFrom e events = { e with value } :: rest := by
  induction events generalizing before e with
  | nil => exact ⟨e.value, [], by rw [← hvalue]; rfl, rfl⟩
  | cons next rest ih =>
    rw [groupFrom, groupFrom, h next]
    split
    · exact @ih { before with value := next.value } { e with value := next.value } h rfl
    · exact ⟨e.value, _, by rw [← hvalue], rfl⟩

/-- What an event goes on with is gone on with by the same events. -/
theorem continues_congr (hbefore : before.Settled) (he : e.Settled)
    (h : continues before e = true) (next : Event) : continues before next = continues e next := by
  obtain ⟨hinput, hinput', hcontrol⟩ := (continues_iff hbefore he).1 h
  rw [continues, continues, hinput, hinput', hcontrol]

/-- An open event before groups that are closed. -/
def behind (before : Event) : List Event → List Event
  | [] => [before]
  | e :: rest =>
    if continues before e then { before with value := e.value } :: rest else before :: e :: rest

theorem groupFrom_eq_behind (hbefore : before.Settled) (h : ∀ e ∈ events, e.Settled) :
    groupFrom before events = behind before (group events) := by
  cases events with
  | nil => rfl
  | cons e rest =>
    have he := h e (List.mem_cons_self ..)
    rw [groupFrom, group]
    split
    · rename_i hcontinues
      have halike := continues_congr hbefore he hcontinues
      obtain ⟨value, more, hopen, hnew⟩ :=
        @exists_groupFrom_of_alike { before with value := e.value } e halike rfl rest
      -- a group differs from the event that opened it in its value only
      have hsame : continues before { e with value } = true := hcontinues
      rw [hopen, hnew, behind, if_pos hsame]
    · rename_i hcloses
      obtain ⟨value, more, hgroups⟩ := exists_groupFrom_eq e rest
      have hsame : ¬continues before { e with value } = true := hcloses
      rw [hgroups, behind, if_neg hsame]

/-! ## A cut recording -/

/-- What follows meets the last group alone. -/
theorem exists_groupFrom_append (before : Event) (events more : List Event) :
    ∃ groups last, groupFrom before events = groups ++ [last] ∧
      groupFrom before (events ++ more) = groups ++ groupFrom last more := by
  induction events generalizing before with
  | nil => exact ⟨[], before, rfl, rfl⟩
  | cons e rest ih =>
    rw [List.cons_append, groupFrom, groupFrom]
    split
    · exact ih { before with value := e.value }
    · obtain ⟨groups, last, hgroups, hmore⟩ := ih e
      exact ⟨before :: groups, last, by rw [hgroups]; rfl, by rw [hmore]; rfl⟩

theorem joined_behind {groups more : List Event} (hlast : last.Settled)
    (h : ∀ e ∈ more, e.Settled) : Joined (groups ++ [last]) more (groups ++ behind last more) := by
  have hend : (groups ++ [last]).getLast? = some last := List.getLast?_concat
  cases more with
  | nil =>
    have hapart := Joined.apart (groups ++ [last]) [] (by simp)
    rwa [List.append_nil] at hapart
  | cons e rest =>
    have hsame := sameInput_iff hlast (h e (List.mem_cons_self ..))
    rw [behind]
    split
    · exact .merged (hsame.2 ‹_›)
    · rename_i hcloses
      rw [List.append_cons groups last (e :: rest)]
      refine .apart _ _ ?_
      simpa [hend] using mt hsame.1 hcloses

theorem joined_group {more : List Event} (h : ∀ e ∈ events, e.Settled)
    (hmore : ∀ e ∈ more, e.Settled) :
    Joined (group events) (group more) (group (events ++ more)) := by
  cases events with
  | nil => exact .apart [] (group more) (by simp)
  | cons first rest =>
    obtain ⟨groups, last, hgroups, hjoined⟩ := exists_groupFrom_append first rest more
    have hlast : last.Settled :=
      settled_group h last (by rw [group, hgroups]; exact List.mem_concat_self)
    rw [List.cons_append, group, group, hjoined, hgroups, groupFrom_eq_behind hlast hmore]
    exact joined_behind hlast (settled_group hmore)

/-! ## Groups of groups -/

theorem groupFrom_of_isChain
    (h : (before :: events).IsChain fun before e => continues before e = false) :
    groupFrom before events = before :: events := by
  induction events generalizing before with
  | nil => rfl
  | cons e rest ih =>
    obtain ⟨hcloses, hrest⟩ := List.isChain_cons_cons.1 h
    rw [groupFrom, hcloses, ih hrest]
    rfl

/-- Groups are their own groups. -/
theorem group_group (events : List Event) : group (group events) = group events := by
  have hchain := isChain_group events
  cases hgroups : group events with
  | nil => rfl
  | cons first rest =>
    rw [hgroups] at hchain
    exact groupFrom_of_isChain hchain

/-! ## Records -/

theorem settled_of_mem_filterMap {records : List Json}
    (h : ∀ record ∈ records, HasTextControl record) :
    ∀ e ∈ records.filterMap read?, e.Settled := by
  intro e he
  obtain ⟨record, hrecord, hread⟩ := List.mem_filterMap.1 he
  exact settled_of_read? (h record hrecord) hread

/-- **Grouping composes.** Wherever a recording is cut, its groups are those of its two parts in
a row, but for an input that goes on behind the cut, which is one group; and grouping the records
of groups gives the groups again. -/
theorem groupsOf_joined {first second : List Json}
    (hfirst : ∀ record ∈ first, HasTextControl record)
    (hsecond : ∀ record ∈ second, HasTextControl record) :
    Joined (groupsOf first) (groupsOf second) (groupsOf (first ++ second)) ∧
      groupsOf ((groupsOf first).map toJson) = groupsOf first := by
  have hread := settled_of_mem_filterMap hfirst
  have hread' := settled_of_mem_filterMap hsecond
  constructor
  · rw [groupsOf, groupsOf, groupsOf, List.filterMap_append]
    exact joined_group hread hread'
  · rw [groupsOf, groupsOf, filterMap_toJson (settled_group hread), group_group]

theorem hasTextControl_event (action control value : String) :
    HasTextControl (Sample.event action control value) := by
  intro fields hfields _
  cases hfields
  exact ⟨control, rfl⟩

/-- An input that is cut in two, with noise at the cut. -/
theorem groupsOf_joined_cut :
    let first := [Sample.event "Input" "/usr/ctxtA" "1", .str "noise"]
    let second := [.null, Sample.event "SET" "/usr/ctxtA" "2", Sample.event "Click" "/btn[8]" "",
      Sample.event "Input" "/usr/ctxtA" "3"]
    (∀ record ∈ first, HasTextControl record) ∧ (∀ record ∈ second, HasTextControl record) ∧
      Joined (groupsOf first) (groupsOf second) (groupsOf (first ++ second)) ∧
      groupsOf ((groupsOf first).map toJson) = groupsOf first ∧
      (groupsOf (first ++ second)).map (fun e => (e.action, e.value)) =
        [("input", .str "2"), ("click", .str ""), ("input", .str "3")] := by
  intro first second
  have hfirst : ∀ record ∈ first, HasTextControl record := by
    simp only [first, List.forall_mem_cons]
    exact ⟨hasTextControl_event _ _ _, nofun, nofun⟩
  have hsecond : ∀ record ∈ second, HasTextControl record := by
    simp only [second, List.forall_mem_cons]
    exact ⟨nofun, hasTextControl_event _ _ _, hasTextControl_event _ _ _,
      hasTextControl_event _ _ _, nofun⟩
  obtain ⟨hjoined, hagain⟩ := groupsOf_joined hfirst hsecond
  exact ⟨hfirst, hsecond, hjoined, hagain, rfl⟩

end Event

end ReplayFlow
