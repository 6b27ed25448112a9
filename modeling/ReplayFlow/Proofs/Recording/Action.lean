import ReplayFlow.Proofs.Text.Basic
import ReplayFlow.Recording.Normalize

/-!
The actions of carried steps. A normalized action is stripped, and it is one of
the actions of a flow or a text that is no recorded action, so it is its own
normal form (`normalize_normalize`).
-/

namespace ReplayFlow

namespace Action

variable {text action : String}

/-- The flow action of a stripped text. -/
def ofText (text : String) : String :=
  if text ∈ flowActions then text else (recorded? (lowercase text)).getD text

/-- A text without blanks at its ends. -/
def Stripped (text : String) : Prop := Text.strip text.toList = text.toList

theorem normalize_eq (action : Json) :
    normalize action =
      ofText (String.ofList (Text.strip (action.orElse (.str "")).display.toList)) := rfl

theorem stripped_of_mem : ∀ action ∈ flowActions, Stripped action := by
  unfold Stripped
  decide

theorem normalize_str (h : Stripped text) : normalize (.str text) = ofText text := by
  have hgiven : (Json.str text).orElse (.str "") = .str text := by
    by_cases hempty : text = "" <;> simp [Json.orElse, Json.isGiven, hempty]
  rw [normalize_eq, hgiven, Json.display, h, String.ofList_toList]

theorem ofText_of_mem (h : action ∈ flowActions) : ofText action = action := if_pos h

theorem mem_of_recorded? (h : recorded? text = some action) : action ∈ flowActions := by
  unfold recorded? at h
  split at h <;> cases h <;> decide

/-- An action is one of a flow, or it is kept as it is written. -/
theorem ofText_cases (text : String) :
    ofText text ∈ flowActions ∨ (ofText text = text ∧ recorded? (lowercase text) = none) := by
  unfold ofText
  split
  · exact .inl ‹_›
  · cases hrecorded : recorded? (lowercase text) with
    | some action => exact .inl (mem_of_recorded? hrecorded)
    | none => exact .inr ⟨rfl, rfl⟩

theorem ofText_ofText (text : String) : ofText (ofText text) = ofText text := by
  rcases ofText_cases text with hflow | ⟨hkept, _⟩
  · exact ofText_of_mem hflow
  · rw [hkept]
    exact hkept

theorem stripped_ofText (h : Stripped text) : Stripped (ofText text) := by
  rcases ofText_cases text with hflow | ⟨hkept, _⟩
  · exact stripped_of_mem _ hflow
  · rw [hkept]
    exact h

/-- The actions of a flow are kept. -/
theorem normalize_of_mem (h : action ∈ flowActions) : normalize (.str action) = action := by
  rw [normalize_str (stripped_of_mem action h), ofText_of_mem h]

/-- **A normalized action is its own normal form**, whatever value it was made from. -/
theorem normalize_normalize (action : Json) :
    normalize (.str (normalize action)) = normalize action := by
  have hstripped : Stripped (String.ofList
      (Text.strip (action.orElse (.str "")).display.toList)) := by
    rw [Stripped, String.toList_ofList, Text.strip_strip]
  rw [normalize_eq action, normalize_str (stripped_ofText hstripped), ofText_ofText]

end Action

namespace Recording

theorem action_carriedStep (name : String) (record : Entries Json) :
    (carriedStep name record).action = Action.normalize (Entries.field record "action") := by
  rw [carriedStep, Step.ofRecord]

theorem action_contextStep (context name : String) (record : Entries Json) :
    (contextStep context name record).action =
      Action.normalize (Entries.field record "action") := by
  rw [contextStep, Step.ofRecord]

end Recording

end ReplayFlow
