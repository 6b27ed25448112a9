import ReplayFlow.Alias.Shortening
import ReplayFlow.Proofs.Data.OrderedMap
import ReplayFlow.Proofs.Text.Basic

/-!
Written paths and the paths they stand for.

* `tokenAt?_eq_some_iff`: a token is read exactly where its characters stand;
* `isLongestHead_of_longestHead?`: of the longest heads that start a path the
  first is written as a token;
* `IsPlain.expand_shorten`: under keys that can stand in a token, writing a path
  with its head as a token and expanding it gives the path back, if the path
  itself has no token of a known key;
* `shorten_inj`: two control paths that are written alike are one, whatever the
  heads are.
-/

namespace ReplayFlow.Alias

/-- A key that can stand in a token: one or more word characters. -/
def IsKey (key : List Char) : Prop := key ≠ [] ∧ ∀ c ∈ key, Text.isWordChar c = true

/-- Heads whose keys can all stand in a token. -/
def WordKeys (heads : OrderedMap String) : Prop := ∀ key ∈ heads.keys, IsKey key.toList

theorem wordKeys_of_all {heads : OrderedMap String}
    (h : heads.keys.all (fun key => key != "" && key.toList.all Text.isWordChar) = true) :
    WordKeys heads := by
  intro key hkey
  have hkey' := List.all_eq_true.1 h key hkey
  rw [Bool.and_eq_true, bne_iff_ne, ne_eq, ← String.toList_eq_nil_iff, List.all_eq_true] at hkey'
  exact hkey'

/-- A path that starts at the root, as those of controls do. -/
def IsRooted (path : String) : Prop := Text.startsWith ['/'] path.toList = true

theorem isRooted_iff {path : String} : IsRooted path ↔ ∃ rest, path.toList = '/' :: rest := by
  simp [IsRooted, Text.startsWith, Option.isSome_iff_exists, Text.after?_eq_some_iff]

theorem IsRooted.ne_empty {path : String} (h : IsRooted path) : path ≠ "" := by
  obtain ⟨rest, hlist⟩ := isRooted_iff.1 h
  rintro rfl
  simp at hlist

/-! ## Tokens -/

theorem length_tokenChars (key : List Char) : (tokenChars key).length = key.length + 4 := by
  simp [tokenChars]

theorem takeWhile_key {key : List Char} (h : IsKey key) (rest : List Char) :
    (key ++ '\x7d' :: rest).takeWhile Text.isWordChar = key := by
  rw [List.takeWhile_append_of_pos h.2, List.takeWhile_cons_of_neg (by decide), List.append_nil]

theorem dropWhile_key {key : List Char} (h : IsKey key) (rest : List Char) :
    (key ++ '\x7d' :: rest).dropWhile Text.isWordChar = '\x7d' :: rest := by
  rw [List.dropWhile_append_of_pos h.2, List.dropWhile_cons_of_neg (by decide)]

theorem tokenAt?_tokenChars {key : List Char} (h : IsKey key) (rest : List Char) :
    tokenAt? (tokenChars key ++ rest) = some key := by
  have happ : tokenChars key ++ rest = '\x7b' :: '\x7b' :: (key ++ '\x7d' :: '\x7d' :: rest) := by
    simp [tokenChars]
  obtain ⟨c, more, rfl⟩ := List.exists_cons_of_ne_nil h.1
  rw [happ, tokenAt?]
  simp only [takeWhile_key h, dropWhile_key h]

theorem eq_tokenChars_of_tokenAt? {text key : List Char} (h : tokenAt? text = some key) :
    IsKey key ∧ ∃ rest, text = tokenChars key ++ rest := by
  unfold tokenAt? at h
  split at h
  · rename_i rest
    split at h
    · rename_i c more after htake hdrop
      cases h
      refine ⟨⟨List.cons_ne_nil _ _, ?_⟩, after, ?_⟩
      · intro d hd
        rw [← htake] at hd
        exact List.all_eq_true.1 (List.all_takeWhile (p := Text.isWordChar) (l := rest)) d hd
      · have hsplit := List.takeWhile_append_dropWhile (p := Text.isWordChar) (l := rest)
        rw [htake, hdrop] at hsplit
        simp [tokenChars, ← hsplit]
    · cases h
  · cases h

theorem tokenAt?_eq_some_iff {text key : List Char} :
    tokenAt? text = some key ↔ IsKey key ∧ ∃ rest, text = tokenChars key ++ rest := by
  constructor
  · exact eq_tokenChars_of_tokenAt?
  · rintro ⟨hkey, rest, rfl⟩
    exact tokenAt?_tokenChars hkey rest

/-! ## Scanning -/

theorem scanFrom_append (skipped text : List Char) :
    scanFrom skipped.length (skipped ++ text) = scanFrom 0 text := by
  induction skipped with
  | nil => rfl
  | cons c skipped ih => simpa [scanFrom] using ih

theorem scan_tokenChars {key : List Char} (h : IsKey key) (rest : List Char) :
    scan (tokenChars key ++ rest) = .token key :: scan rest := by
  have hopen : tokenChars key ++ rest = '\x7b' :: (('\x7b' :: key ++ ['\x7d', '\x7d']) ++ rest) := by
    simp [tokenChars]
  have hlen : ('\x7b' :: key ++ ['\x7d', '\x7d']).length = key.length + 3 := by simp
  have htoken := tokenAt?_tokenChars h rest
  rw [hopen] at htoken ⊢
  rw [scan, scanFrom, htoken, scan]
  simp only
  rw [← hlen, scanFrom_append]

/-- A token is read only where its characters stand. -/
theorem token_isInfix_of_mem_scanFrom {key : List Char} {skip : Nat} {text : List Char}
    (h : .token key ∈ scanFrom skip text) : tokenChars key <:+: text := by
  induction text generalizing skip with
  | nil => cases skip <;> simp [scanFrom] at h
  | cons c text ih =>
    cases skip with
    | succ skip => exact List.infix_cons (ih h)
    | zero =>
      cases htoken : tokenAt? (c :: text) with
      | none =>
        simp only [scanFrom, htoken, List.mem_cons, reduceCtorEq, false_or] at h
        exact List.infix_cons (ih h)
      | some found =>
        simp only [scanFrom, htoken, List.mem_cons, Piece.token.injEq] at h
        rcases h with rfl | h
        · obtain ⟨_, rest, e⟩ := tokenAt?_eq_some_iff.1 htoken
          exact ⟨[], rest, by rw [List.nil_append, e]⟩
        · exact List.infix_cons (ih h)

/-- A text whose tokens all have unknown keys expands to itself. -/
theorem flatMap_expand_scanFrom (heads : OrderedMap String) (skip : Nat) (text : List Char)
    (h : ∀ key, .token key ∈ scanFrom skip text → heads.get? (String.ofList key) = none) :
    (scanFrom skip text).flatMap (Piece.expand heads) = text.drop skip := by
  induction text generalizing skip with
  | nil => cases skip <;> simp [scanFrom]
  | cons c text ih =>
    cases skip with
    | succ skip => simpa [scanFrom] using ih skip (by simpa [scanFrom] using h)
    | zero =>
      cases htoken : tokenAt? (c :: text) with
      | none =>
        simp only [scanFrom, htoken] at h ⊢
        simp [Piece.expand, ih 0 fun key hkey => h key (List.mem_cons_of_mem _ hkey)]
      | some key =>
        obtain ⟨_, rest, e⟩ := tokenAt?_eq_some_iff.1 htoken
        simp only [scanFrom, htoken] at h ⊢
        have hrest := ih (key.length + 3) fun k hk => h k (List.mem_cons_of_mem _ hk)
        have hdrop : text.drop (key.length + 3) = rest := by
          have := congrArg (List.drop (key.length + 4)) e
          rw [← length_tokenChars key, List.drop_left, length_tokenChars] at this
          simpa using this
        simp [Piece.expand, h key (List.mem_cons_self ..), hrest, hdrop, e]

/-- A text in which no token of a known key stands. -/
def IsPlain (heads : OrderedMap String) (text : List Char) : Prop :=
  ∀ key ∈ heads.keys, ¬ tokenChars key.toList <:+: text

theorem IsPlain.of_suffix {heads : OrderedMap String} {text rest : List Char}
    (h : IsPlain heads text) (hrest : rest <:+ text) : IsPlain heads rest :=
  fun key hkey hstands => h key hkey (hstands.trans hrest.isInfix)

theorem isPlain_of_not_mem (heads : OrderedMap String) {text : List Char} (h : '\x7b' ∉ text) :
    IsPlain heads text :=
  fun _ _ hstands => h (hstands.subset (by simp [tokenChars]))

theorem IsPlain.flatMap_expand {heads : OrderedMap String} {text : List Char}
    (h : IsPlain heads text) : (scan text).flatMap (Piece.expand heads) = text := by
  refine flatMap_expand_scanFrom heads 0 text fun key hkey => ?_
  refine OrderedMap.get?_eq_none_iff.2 fun hmem => h _ hmem ?_
  rw [String.toList_ofList]
  exact token_isInfix_of_mem_scanFrom hkey

theorem IsPlain.expand_eq_self {heads : OrderedMap String} {path : String}
    (h : IsPlain heads path.toList) : expand heads path = path := by
  rw [expand, h.flatMap_expand, String.ofList_toList]

/-! ## Heads -/

/-- Of the longest heads that start a path the first, with the rest of the path. -/
structure IsLongestHead (heads : Entries String) (path : List Char) (key head : String)
    (rest : List Char) : Prop where
  starts : path = head.toList ++ rest
  first : ∃ before after, heads = before ++ (key, head) :: after ∧
    (∀ entry ∈ before, entry.2.toList <+: path → entry.2.length < head.length) ∧
    ∀ entry ∈ after, entry.2.toList <+: path → entry.2.length ≤ head.length

namespace IsLongestHead

variable {heads : Entries String} {path rest : List Char} {key head : String}

theorem mem (h : IsLongestHead heads path key head rest) : (key, head) ∈ heads := by
  obtain ⟨before, after, rfl, _⟩ := h.first
  simp

theorem length_le (h : IsLongestHead heads path key head rest) {entry : String × String}
    (hentry : entry ∈ heads) (hstarts : entry.2.toList <+: path) :
    entry.2.length ≤ head.length := by
  obtain ⟨before, after, rfl, hbefore, hafter⟩ := h.first
  rcases List.mem_append.1 hentry with hmem | hmem
  · exact Nat.le_of_lt (hbefore entry hmem hstarts)
  · rcases List.mem_cons.1 hmem with rfl | hmem
    · exact Nat.le_refl _
    · exact hafter entry hmem hstarts

/-- A head in front that is shorter, or does not start the path, changes nothing. -/
theorem cons (h : IsLongestHead heads path key head rest) {entry : String × String}
    (hentry : entry.2.toList <+: path → entry.2.length < head.length) :
    IsLongestHead (entry :: heads) path key head rest := by
  obtain ⟨before, after, rfl, hbefore, hafter⟩ := h.first
  exact ⟨h.starts, entry :: before, after, rfl, List.forall_mem_cons.2 ⟨hentry, hbefore⟩, hafter⟩

theorem of_head (hstarts : path = head.toList ++ rest)
    (hheads : ∀ entry ∈ heads, entry.2.toList <+: path → entry.2.length ≤ head.length) :
    IsLongestHead ((key, head) :: heads) path key head rest :=
  ⟨hstarts, [], heads, rfl, nofun, hheads⟩

end IsLongestHead

theorem longestHead?_eq_none_iff {heads : Entries String} {path : List Char} :
    longestHead? heads path = none ↔ ∀ entry ∈ heads, ¬ entry.2.toList <+: path := by
  induction heads with
  | nil => simp [longestHead?]
  | cons entry more ih =>
    rw [List.forall_mem_cons, ← ih, ← Text.after?_eq_none_iff, longestHead?]
    cases Text.after? entry.2.toList path with
    | none => simp
    | some rest =>
      cases longestHead? more path with
      | none => simp
      | some found =>
        dsimp only
        split <;> simp

theorem isLongestHead_of_longestHead? {heads : Entries String} {path rest : List Char}
    {key : String} (h : longestHead? heads path = some (key, rest)) :
    ∃ head, IsLongestHead heads path key head rest := by
  induction heads generalizing key rest with
  | nil => cases h
  | cons entry more ih =>
    obtain ⟨k, head⟩ := entry
    cases hafter : Text.after? head.toList path with
    | none =>
      have hstarts := Text.after?_eq_none_iff.1 hafter
      simp only [longestHead?, hafter] at h
      obtain ⟨found, hfound⟩ := ih h
      exact ⟨found, hfound.cons fun hs => absurd hs hstarts⟩
    | some left =>
      have e := Text.after?_eq_some_iff.1 hafter
      cases hmore : longestHead? more path with
      | none =>
        simp only [longestHead?, hafter, hmore, Option.some.injEq, Prod.mk.injEq] at h
        obtain ⟨rfl, rfl⟩ := h
        exact ⟨head, .of_head e fun entry hentry hs =>
          absurd hs (longestHead?_eq_none_iff.1 hmore entry hentry)⟩
      | some found =>
        obtain ⟨other, hother⟩ := ih hmore
        have hlengths := congrArg List.length (e.symm.trans hother.starts)
        simp only [List.length_append, String.length_toList] at hlengths
        simp only [longestHead?, hafter, hmore] at h
        split at h
        · cases h
          exact ⟨other, hother.cons fun _ => by simp only; omega⟩
        · cases h
          refine ⟨head, .of_head e fun entry hentry hs => ?_⟩
          have := hother.length_le hentry hs
          omega

/-- A path is written with the token of the longest head that starts it, or as it is when none
does. -/
theorem shorten_cases (heads : OrderedMap String) (path : String) :
    (∃ key head rest, IsLongestHead heads.entries path.toList key head rest ∧
      (shorten heads path).toList = tokenChars key.toList ++ rest) ∨
    (∀ entry ∈ heads.entries, ¬ entry.2.toList <+: path.toList) ∧ shorten heads path = path := by
  unfold shorten
  cases hfound : longestHead? heads.entries path.toList with
  | some found =>
    obtain ⟨head, hhead⟩ := isLongestHead_of_longestHead? hfound
    exact .inl ⟨found.1, head, found.2, hhead, String.toList_ofList⟩
  | none => exact .inr ⟨longestHead?_eq_none_iff.1 hfound, rfl⟩

theorem shorten_empty (path : String) : shorten ∅ path = path := rfl

theorem IsPlain.expand_shorten {heads : OrderedMap String} (hkeys : WordKeys heads)
    {path : String} (h : IsPlain heads path.toList) : expand heads (shorten heads path) = path := by
  rcases shorten_cases heads path with ⟨key, head, rest, hhead, hwritten⟩ | ⟨_, hsame⟩
  · have hget := OrderedMap.get?_eq_some_iff.2 hhead.mem
    have hkey := hkeys key (OrderedMap.mem_keys_of_get? hget)
    have hrest : IsPlain heads rest := h.of_suffix (hhead.starts ▸ List.suffix_append _ _)
    rw [expand, hwritten, scan_tokenChars hkey, List.flatMap_cons, hrest.flatMap_expand]
    simp [Piece.expand, hget, ← hhead.starts]
  · rw [hsame, h.expand_eq_self]

theorem expand_shorten {heads : OrderedMap String} (hkeys : WordKeys heads) {path : String}
    (h : '\x7b' ∉ path.toList) : expand heads (shorten heads path) = path :=
  (isPlain_of_not_mem heads h).expand_shorten hkeys

/-- **Expanding undoes prefixing.** Whatever the heads are, a path without a token of a known key
comes back; and it is written with the first of the longest heads that start it. -/
theorem expand_shorten_of_isPlain {heads : OrderedMap String} (hkeys : WordKeys heads)
    {path : String} (h : IsPlain heads path.toList) :
    expand heads (shorten heads path) = path ∧
      ((∃ key head rest, IsLongestHead heads.entries path.toList key head rest ∧
          (∀ entry ∈ heads.entries, entry.2.toList <+: path.toList →
            entry.2.length ≤ head.length) ∧
          (shorten heads path).toList = tokenChars key.toList ++ rest) ∨
        (∀ entry ∈ heads.entries, ¬ entry.2.toList <+: path.toList) ∧
          shorten heads path = path) := by
  refine ⟨h.expand_shorten hkeys, ?_⟩
  rcases shorten_cases heads path with ⟨key, head, rest, hhead, hwritten⟩ | hsame
  · exact .inl ⟨key, head, rest, hhead, fun _ => hhead.length_le, hwritten⟩
  · exact .inr hsame

/-- Heads that start one another, two that are equal, an empty one and one with a token in it. -/
def nestedHeads : OrderedMap String :=
  ⟨[("a", ""), ("b", "/x/"), ("c", "/x/y\x7b"), ("d", "/x/y\x7b"), ("e", "/x/y\x7b\x7bc\x7d\x7d")],
    by decide⟩

/-- A token of an unknown key, which the longest head cuts, and braces that close nothing. -/
def bracedPath : String := "/x/y\x7b\x7bz\x7d\x7d/\x7b\x7b\x7b"

theorem expand_shorten_of_isPlain_braced :
    WordKeys nestedHeads ∧ IsPlain nestedHeads bracedPath.toList ∧
      shorten nestedHeads bracedPath = "\x7b\x7bc\x7d\x7d\x7bz\x7d\x7d/\x7b\x7b\x7b" ∧
      expand nestedHeads "\x7b\x7bc\x7d\x7d\x7bz\x7d\x7d/\x7b\x7b\x7b" = bracedPath := by
  have hkeys : WordKeys nestedHeads := wordKeys_of_all rfl
  have hplain : IsPlain nestedHeads bracedPath.toList := by
    simp [IsPlain, nestedHeads, bracedPath, OrderedMap.keys, Entries.keys, tokenChars,
      List.infix_cons_iff]
  have hwritten : shorten nestedHeads bracedPath =
      "\x7b\x7bc\x7d\x7d\x7bz\x7d\x7d/\x7b\x7b\x7b" := rfl
  obtain ⟨hback, _⟩ := expand_shorten_of_isPlain hkeys hplain
  rw [hwritten] at hback
  exact ⟨hkeys, hplain, hwritten, hback⟩

/-- Control paths start with a slash, which no token does; so a written path
shows whether it has a token, and the token shows the head. -/
theorem shorten_inj {heads : OrderedMap String} (hkeys : WordKeys heads) {path other : String}
    (hpath : IsRooted path) (hother : IsRooted other)
    (h : shorten heads path = shorten heads other) : path = other := by
  obtain ⟨p, hp⟩ := isRooted_iff.1 hpath
  obtain ⟨q, hq⟩ := isRooted_iff.1 hother
  have hlist := congrArg String.toList h
  rcases shorten_cases heads path with ⟨key, head, rest, hhead, hwritten⟩ | ⟨_, hsame⟩ <;>
    rcases shorten_cases heads other with ⟨key', head', rest', hhead', hwritten'⟩ | ⟨_, hsame'⟩
  · rw [hwritten, hwritten'] at hlist
    have hget := OrderedMap.get?_eq_some_iff.2 hhead.mem
    have hget' := OrderedMap.get?_eq_some_iff.2 hhead'.mem
    have hk := hkeys key (OrderedMap.mem_keys_of_get? hget)
    have hk' := hkeys key' (OrderedMap.mem_keys_of_get? hget')
    have htoken := congrArg tokenAt? hlist
    rw [tokenAt?_tokenChars hk, tokenAt?_tokenChars hk', Option.some.injEq,
      String.toList_inj] at htoken
    subst htoken
    have hrest := List.append_cancel_left hlist
    rw [hget, Option.some.injEq] at hget'
    rw [← String.toList_inj, hhead.starts, hhead'.starts, hget', hrest]
  · rw [hwritten, hsame', hq] at hlist
    simp [tokenChars] at hlist
  · rw [hsame, hwritten', hp] at hlist
    simp [tokenChars] at hlist
  · rw [← hsame, ← hsame', h]

theorem shorten_inj_iff {heads : OrderedMap String} (hkeys : WordKeys heads)
    {path other : String} (hpath : IsRooted path) (hother : IsRooted other) :
    shorten heads path = shorten heads other ↔ path = other :=
  ⟨shorten_inj hkeys hpath hother, fun h => h ▸ rfl⟩

end ReplayFlow.Alias
