import ReplayFlow.Proofs.Text.Case

/-!
How far a change of case can spread a character. The upper case of some characters
has several, and so has the lower case of the dotted capital `I`. The spread of a
character is the most that its changes of case can leave. A second change spreads
nothing further, so the spread of a text bounds the one of the text in another
case (`spreadOf_lower_le`, `spreadOf_capitalize_le`); and every character that is
dropped from a text takes from its spread (`eq_of_sublist`).
-/

namespace ReplayFlow.Text

variable {c d : Char} {n : Nat} {text more : List Char}

def spread (c : Char) : Nat := max (upperChar c).length ((lowerChar c).flatMap upperChar).length

def spreadOf : List Char → Nat
  | [] => 0
  | c :: text => spread c + spreadOf text

theorem spreadOf_cons (c : Char) (text : List Char) :
    spreadOf (c :: text) = spread c + spreadOf text := rfl

theorem spreadOf_append (text more : List Char) :
    spreadOf (text ++ more) = spreadOf text + spreadOf more := by
  induction text with
  | nil => exact (Nat.zero_add _).symm
  | cons c text ih => rw [List.cons_append, spreadOf_cons, spreadOf_cons, ih, Nat.add_assoc]

/-! ## The points that may spread -/

/-- The points whose upper case has several characters. -/
def longPoints : List Nat := longUppers.map Prod.fst

/-- The points that may spread: those of a long upper case, and the capitals `İ` and `ẞ`. -/
def widePoints : List Nat := 0x130 :: 0x1E9E :: longPoints

/-- None of the points is one that a range of a table moves onto. -/
def Spares (points : List Nat) (range : Nat × Nat × Nat × Int) : Bool :=
  let low := ((range.1 : Int) + range.2.2.2).toNat
  let high := ((range.2.1 : Int) + range.2.2.2).toNat
  Nat.blt 0 low &&
    points.all fun n => n.blt low || high.blt n || !((n - low) % range.2.2.1).beq 0

/-- The points that a range of a table covers all spread. -/
def SpansWide (range : Nat × Nat × Nat × Int) : Bool :=
  (List.range' range.1 (range.2.1 + 1 - range.1)).all fun n => widePoints.any n.beq

theorem spares_upperShifts : ∀ range ∈ upperShifts, Spares widePoints range = true := by
  decide +kernel

theorem spares_lowerShifts :
    ∀ range ∈ lowerShifts, (Spares longPoints range || SpansWide range) = true := by
  decide +kernel

theorem longUppers_not_wide : ∀ entry ∈ longUppers, entry.2 ≠ [] ∧
    ∀ point ∈ entry.2, (Char.ofNat point).toNat ∉ widePoints := by decide +kernel

theorem ascii_not_wide (h : n < 128) : n ∉ widePoints := by
  have hall : ∀ point ∈ widePoints, 128 ≤ point := by decide
  intro hmem
  have hle := hall n hmem
  omega

theorem not_mem_of_spares {points : List Nat} {range : Nat × Nat × Nat × Int}
    (h : Spares points range = true) (hfirst : range.1 ≤ n) (hlast : n ≤ range.2.1)
    (hstep : (n - range.1) % range.2.2.1 = 0) : ((n : Int) + range.2.2.2).toNat ∉ points := by
  intro hmem
  obtain ⟨hlow, hspares⟩ := Bool.and_eq_true_iff.1 h
  rw [Nat.blt_eq] at hlow
  have hdistance : ((n : Int) + range.2.2.2).toNat - ((range.1 : Int) + range.2.2.2).toNat =
      n - range.1 := by omega
  have hspared := List.all_eq_true.1 hspares _ hmem
  simp only [Bool.or_eq_true, Nat.blt_eq, hdistance, hstep] at hspared
  rcases hspared with (hbelow | habove) | hoff
  · omega
  · omega
  · cases hoff

theorem mem_of_spansWide {range : Nat × Nat × Nat × Int} (h : SpansWide range = true)
    (hfirst : range.1 ≤ n) (hlast : n ≤ range.2.1) : n ∈ widePoints := by
  have hrange : n ∈ List.range' range.1 (range.2.1 + 1 - range.1) := by
    rw [List.mem_range'_1]
    omega
  obtain ⟨point, hpoint, heq⟩ := List.any_eq_true.1 (List.all_eq_true.1 h n hrange)
  exact Nat.eq_of_beq_eq_true heq ▸ hpoint

theorem not_long_of_not_wide (h : n ∉ widePoints) : n ∉ longPoints :=
  fun hmem => h (List.mem_cons_of_mem _ (List.mem_cons_of_mem _ hmem))

/-- A character that moves is none of the points that its range spares. -/
theorem shifted_not_mem {table : List (Nat × Nat × Nat × Int)} {points : List Nat}
    (hzero : 0 ∉ points) (hmoves : shiftOf c.toNat table ≠ 0)
    (hspares : ∀ range ∈ table, range.1 ≤ c.toNat → c.toNat ≤ range.2.1 →
      Spares points range = true) : (shifted table c).toNat ∉ points := by
  obtain ⟨range, hmem, hfirst, hlast, hstep, hshift⟩ := exists_range_of_shiftOf hmoves
  have hspared := not_mem_of_spares (hspares range hmem hfirst hlast) hfirst hlast hstep
  rw [shifted, hshift]
  by_cases hvalid : ((c.toNat : Int) + range.2.2.2).toNat.isValidChar
  · rw [Char.ofNat, dif_pos hvalid]
    exact hspared
  · rw [Char.ofNat, dif_neg hvalid]
    exact hzero

/-! ## One character -/

theorem lookup_eq_none_iff : longUppers.lookup n = none ↔ n ∉ longPoints := by
  rw [List.lookup_eq_none_iff, longPoints, List.mem_map]
  grind

theorem length_upperChar (h : c.toNat ∉ longPoints) : (upperChar c).length = 1 := by
  rw [upperChar]
  split
  · rfl
  · rw [lookup_eq_none_iff.2 h]
    rfl

theorem upperChar_ne_nil (c : Char) : upperChar c ≠ [] := by
  rw [upperChar]
  split
  · exact List.cons_ne_nil _ _
  · split
    · rename_i points hlookup
      obtain ⟨before, rest, hentries, _⟩ := List.lookup_eq_some_iff.1 hlookup
      have hmem : (c.toNat, points) ∈ longUppers := hentries ▸ List.mem_append_cons_self
      exact fun hnil => (longUppers_not_wide _ hmem).1 (List.map_eq_nil_iff.1 hnil)
    · exact List.cons_ne_nil _ _

theorem spread_pos (c : Char) : 0 < spread c :=
  Nat.lt_of_lt_of_le (List.length_pos_iff.2 (upperChar_ne_nil c)) (Nat.le_max_left ..)

/-- A character that does not spread has a lower case of one upper case character. -/
theorem spread_of_not_wide (h : c.toNat ∉ widePoints) : spread c = 1 := by
  have hupper := length_upperChar (not_long_of_not_wide h)
  have hdotted : c ≠ 'İ' := by
    rintro rfl
    exact h (List.mem_cons_self ..)
  have hlower : ∃ d, lowerChar c = [d] ∧ d.toNat ∉ longPoints := by
    rw [lowerChar, if_neg hdotted]
    split
    · rename_i hascii
      refine ⟨_, rfl, not_long_of_not_wide (ascii_not_wide ?_)⟩
      exact forall_ascii (P := fun c => c.toLower.toNat < 128) (by decide) hascii
    · refine ⟨_, rfl, ?_⟩
      by_cases hmoves : shiftOf c.toNat lowerShifts = 0
      · simpa [shifted, hmoves] using not_long_of_not_wide h
      · refine shifted_not_mem (by decide) hmoves fun range hmem hfirst hlast => ?_
        exact (Bool.or_eq_true_iff.1 (spares_lowerShifts range hmem)).resolve_right
          fun hspans => h (mem_of_spansWide hspans hfirst hlast)
  obtain ⟨d, hd, hlong⟩ := hlower
  rw [spread, hupper, hd, List.flatMap_singleton, length_upperChar hlong]
  rfl

/-- A character is its own upper case, or its upper case does not spread. -/
theorem upperChar_cases (c : Char) :
    upperChar c = [c] ∨ ∀ d ∈ upperChar c, d.toNat ∉ widePoints := by
  by_cases hascii : c.toNat < 128
  · refine .inr fun d hd => ascii_not_wide ?_
    rw [upperChar, if_pos hascii, List.mem_singleton] at hd
    rw [hd]
    exact forall_ascii (P := fun c => c.toUpper.toNat < 128) (by decide) hascii
  · cases hlookup : longUppers.lookup c.toNat with
    | some points =>
      obtain ⟨before, rest, hentries, _⟩ := List.lookup_eq_some_iff.1 hlookup
      have hmem : (c.toNat, points) ∈ longUppers := hentries ▸ List.mem_append_cons_self
      refine .inr fun d hd => ?_
      rw [upperChar, if_neg hascii, hlookup] at hd
      obtain ⟨point, hpoint, rfl⟩ := List.mem_map.1 hd
      exact (longUppers_not_wide _ hmem).2 point hpoint
    | none =>
      have hupper : upperChar c = [shifted upperShifts c] := by
        rw [upperChar, if_neg hascii, hlookup]
      rw [hupper]
      by_cases hmoves : shiftOf c.toNat upperShifts = 0
      · exact .inl (by simp [shifted, hmoves])
      · refine .inr fun d hd => ?_
        rw [List.mem_singleton.1 hd]
        exact shifted_not_mem (by decide) hmoves fun range hmem _ _ =>
          spares_upperShifts range hmem

theorem spreadOf_of_not_wide (h : ∀ c ∈ text, c.toNat ∉ widePoints) :
    spreadOf text = text.length := by
  induction text with
  | nil => rfl
  | cons c text ih =>
    obtain ⟨hc, htext⟩ := List.forall_mem_cons.1 h
    rw [spreadOf_cons, spread_of_not_wide hc, ih htext, List.length_cons, Nat.add_comm]

/-- The upper case of a character spreads no further. -/
theorem spreadOf_upperChar_le (c : Char) : spreadOf (upperChar c) ≤ spread c := by
  rcases upperChar_cases c with hself | hnarrow
  · rw [hself]
    exact Nat.le_refl _
  · rw [spreadOf_of_not_wide hnarrow]
    exact Nat.le_max_left ..

theorem spread_of_settled (h : Settled c) : spread c = (upperChar c).length := by
  rw [spread, h.2, List.flatMap_singleton, Nat.max_self]

theorem spreadOf_of_settled (h : ∀ c ∈ text, Settled c) :
    spreadOf text = (text.flatMap upperChar).length := by
  induction text with
  | nil => rfl
  | cons c text ih =>
    obtain ⟨hc, htext⟩ := List.forall_mem_cons.1 h
    rw [spreadOf_cons, spread_of_settled hc, ih htext, List.flatMap_cons, List.length_append]

/-- The lower case of a character spreads no further. -/
theorem spreadOf_lowerChar_le (h : c ≠ 'Σ') : spreadOf (lowerChar c) ≤ spread c := by
  rw [spreadOf_of_settled fun _ hd => settled_of_mem_lowerChar h hd]
  exact Nat.le_max_right ..

/-! ## Texts -/

theorem spreadOf_lowerFrom_le (text before : List Char) :
    spreadOf (lowerFrom before text) ≤ spreadOf text := by
  induction text generalizing before with
  | nil => exact Nat.le_refl _
  | cons c text ih =>
    rw [lowerFrom, spreadOf_append, spreadOf_cons]
    refine Nat.add_le_add ?_ (ih _)
    split
    · rename_i hsigma
      rw [hsigma]
      split <;> decide +kernel
    · rename_i hsigma
      exact spreadOf_lowerChar_le hsigma

theorem spreadOf_lower_le (text : List Char) : spreadOf (lower text) ≤ spreadOf text :=
  spreadOf_lowerFrom_le text []

theorem spreadOf_capitalize_le (text : List Char) : spreadOf (capitalize text) ≤ spreadOf text := by
  cases text with
  | nil => exact Nat.le_refl _
  | cons c text =>
    rw [capitalize, spreadOf_append, spreadOf_cons]
    exact Nat.add_le_add_right (spreadOf_upperChar_le c) _

/-- What is left of a text spreads less, unless all of it is left. -/
theorem spreadOf_lt_or_eq (h : text.Sublist more) : spreadOf text < spreadOf more ∨ text = more := by
  induction h with
  | slnil => exact .inr rfl
  | @cons text more c _ ih =>
    have hpos := spread_pos c
    rw [spreadOf_cons]
    rcases ih with hlt | rfl
    · exact .inl (by omega)
    · exact .inl (by omega)
  | @cons_cons text more c _ ih =>
    rw [spreadOf_cons, spreadOf_cons]
    rcases ih with hlt | rfl
    · exact .inl (by omega)
    · exact .inr rfl

theorem spreadOf_le_of_sublist (h : text.Sublist more) : spreadOf text ≤ spreadOf more := by
  rcases spreadOf_lt_or_eq h with hlt | rfl
  · exact Nat.le_of_lt hlt
  · exact Nat.le_refl _

/-- A part of a text that spreads no less is the text. -/
theorem eq_of_sublist (h : text.Sublist more) (hspread : spreadOf more ≤ spreadOf text) :
    text = more :=
  (spreadOf_lt_or_eq h).resolve_left (Nat.not_lt.2 hspread)

end ReplayFlow.Text
