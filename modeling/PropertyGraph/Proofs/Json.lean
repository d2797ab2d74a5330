import PropertyGraph.Proofs.Elements
import PropertyGraph.Proofs.JsonToken

/-!
# Documents read back

What can be written as JSON is read as the same document: `read_write`. That takes maps with
distinct keys, since a key that occurs twice is read once, and lists and maps that are not nested
too deeply. Of floats it is asked that each by itself is read back, because which float a numeral
denotes is a matter of rounding; everything else is proved.

The reader is given fuel, and the text is twice as long as it needs.
-/

namespace PropertyGraph.Json

/-- The written form of the float is read as the float. -/
def ReadsBack (x : Float) : Prop := read (write (.float x)) = .ok (.float x)

/-- Documents that are read back, nested in so many levels at most. -/
inductive Readable : Nat → Document → Prop where
  | scalar {levels : Nat} {v : Scalar} (h : ∀ x, v = .float x → ReadsBack x) :
    Readable levels (.scalar v)
  | list {levels : Nat} {items : List Document} (h : ∀ d ∈ items, Readable levels d) :
    Readable (levels + 1) (.list items)
  | map {levels : Nat} {entries : List (String × Document)} (hnd : (entries.map Prod.fst).Nodup)
    (h : ∀ e ∈ entries, Readable levels e.2) : Readable (levels + 1) (.map entries)

/-! ## Documents that can be written -/

theorem areWritable_eq (items : List Document) : areWritable items = items.all isWritable := by
  induction items with
  | nil => rfl
  | cons d ds ih => rw [areWritable, ih, List.all_cons]

theorem areEntriesWritable_eq (entries : List (String × Document)) :
    areEntriesWritable entries = entries.all fun e => isWritable e.2 := by
  induction entries with
  | nil => rfl
  | cons e es ih => rw [areEntriesWritable, ih, List.all_cons]

theorem isWritable_list {items : List Document} :
    isWritable (.list items) = true ↔ ∀ d ∈ items, isWritable d = true := by
  rw [isWritable, areWritable_eq, List.all_eq_true]

theorem isWritable_map {entries : List (String × Document)} :
    isWritable (.map entries) = true ↔ ∀ e ∈ entries, isWritable e.2 = true := by
  rw [isWritable, areEntriesWritable_eq, List.all_eq_true]

mutual

/-- A document can be written if it can be written with its keys in order. -/
theorem isWritable_sortKeys : (d : Document) → isWritable (sortKeys d) = isWritable d
  | .scalar _ => rfl
  | .list items => areWritable_sortItems items
  | .map entries => by
    have hperm := (sortEntries entries).mergeSort_perm keyLe
    rw [sortKeys, isWritable, isWritable, areEntriesWritable_eq, hperm.all_eq,
      ← areEntriesWritable_eq, areEntriesWritable_sortEntries]

theorem areWritable_sortItems :
    (items : List Document) → areWritable (sortItems items) = areWritable items
  | [] => rfl
  | d :: ds => by
    rw [sortItems, areWritable, areWritable, isWritable_sortKeys, areWritable_sortItems]

theorem areEntriesWritable_sortEntries : (entries : List (String × Document)) →
    areEntriesWritable (sortEntries entries) = areEntriesWritable entries
  | [] => rfl
  | (k, d) :: es => by
    rw [sortEntries, areEntriesWritable, areEntriesWritable, isWritable_sortKeys,
      areEntriesWritable_sortEntries]

end

/-! ## The parts of a written document -/

theorem writeItems_eq (items : List Document) : writeItems items = items.map write := by
  induction items with
  | nil => rfl
  | cons d ds ih => rw [writeItems, ih, List.map_cons]

def writeEntry (e : String × Document) : String := writeText e.1 ++ ": " ++ write e.2

theorem writeEntries_eq (entries : List (String × Document)) :
    writeEntries entries = entries.map writeEntry := by
  induction entries with
  | nil => rfl
  | cons e es ih => rw [writeEntries, ih, List.map_cons, writeEntry]

/-! ## Gaps -/

theorem skipGap_of_not_gap {c : Char} (h : isGap c = false) (s : List Char) :
    skipGap (c :: s) = c :: s := by
  simp [skipGap, h]

theorem skipGap_of_gap {c : Char} (h : isGap c = true) (s : List Char) :
    skipGap (c :: s) = skipGap s := by
  simp [skipGap, h]

/-- No plain value starts with a gap or with a character that separates or encloses values. -/
theorem readPlain_eq_none {c : Char} (h : c ∈ " \t\n\r,]\x7d\"[\x7b".toList) (s : List Char) :
    readPlain (c :: s) = none := by
  have hc : c ∈ [' ', '\t', '\n', '\r', ',', ']', '\x7d', '"', '[', '\x7b'] := h
  simp only [List.mem_cons, List.not_mem_nil, or_false] at hc
  rcases hc with rfl | rfl | rfl | rfl | rfl | rfl | rfl | rfl | rfl | rfl <;> rfl

theorem readPlain_nil : readPlain [] = none := rfl

theorem skipGap_of_readPlain {s : List Char} {p : Scalar × List Char}
    (h : readPlain s = some p) : skipGap s = s := by
  cases s with
  | nil => rfl
  | cons c s =>
    cases hc : isGap c with
    | false => exact skipGap_of_not_gap hc s
    | true =>
      simp only [isGap, Bool.or_eq_true, beq_iff_eq] at hc
      rw [readPlain_eq_none (by rcases hc with ((rfl | rfl) | rfl) | rfl <;> decide)] at h
      exact absurd h (by simp)

/-! ## Values -/

theorem readValue_of_readPlain {s r : List Char} {v : Scalar} (h : readPlain s = some (v, r))
    (fuel levels : Nat) : readValue (fuel + 1) levels s = .ok (.scalar v, r) := by
  have hmark : ∀ {c : Char} {u : List Char}, c ∈ " \t\n\r,]\x7d\"[\x7b".toList → s ≠ c :: u := by
    rintro c u hc rfl
    rw [readPlain_eq_none hc] at h
    exact absurd h (by simp)
  rw [readValue]
  · show (orMalformed (readPlain s) >>= _) = _
    rw [h]
    rfl
  · exact fun _ => hmark (by decide)
  · exact fun _ => hmark (by decide)
  · exact fun _ => hmark (by decide)

/-- A float can only have been read as a plain value. -/
theorem readPlain_of_readValue {fuel levels : Nat} {s r : List Char} {x : Float}
    (h : readValue (fuel + 1) levels s = .ok (.float x, r)) : readPlain s = some (.float x, r) := by
  unfold readValue at h
  split at h
  · obtain ⟨p, -, h⟩ := bind_eq_ok_iff.mp h
    exact absurd (Prod.mk.inj (Except.ok.inj h)).1 (by simp)
  · split at h
    · exact absurd h (by simp)
    · split at h
      · exact absurd (Prod.mk.inj (Except.ok.inj h)).1 (by simp)
      · obtain ⟨p, -, h⟩ := bind_eq_ok_iff.mp h
        exact absurd (Prod.mk.inj (Except.ok.inj h)).1 (by simp)
  · split at h
    · exact absurd h (by simp)
    · split at h
      · exact absurd (Prod.mk.inj (Except.ok.inj h)).1 (by simp)
      · obtain ⟨p, -, h⟩ := bind_eq_ok_iff.mp h
        exact absurd (Prod.mk.inj (Except.ok.inj h)).1 (by simp)
  · obtain ⟨⟨v, u⟩, hv, h⟩ := bind_eq_ok_iff.mp h
    obtain ⟨hval, rfl⟩ := Prod.mk.inj (Except.ok.inj h)
    have hval : v = .float x := by simpa using hval
    rw [hval] at hv
    show readPlain s = _
    unfold orMalformed at hv
    split at hv
    · rename_i heq
      rw [readPlain, heq, Except.ok.inj hv]
    · exact absurd hv (by simp)

/--
The reader takes a written document, up to gaps around it, if it has fuel for the length of the
text. What follows has to stop a number.
-/
def Reads (levels : Nat) (d : Document) : Prop :=
  ∀ fuel rest, 2 * (write d).toList.length ≤ fuel → Stops rest →
    ∃ r, readValue fuel levels (skipGap ((write d).toList ++ rest)) = .ok (d, r)
      ∧ skipGap r = skipGap rest

/-- A text that is not empty is worth some fuel. -/
theorem exists_fuel {s : List Char} {fuel : Nat} (hfuel : 2 * s.length ≤ fuel) (hs : s ≠ []) :
    ∃ f, fuel = f + 1 := by
  cases fuel with
  | zero => exact absurd (List.eq_nil_of_length_eq_zero (by omega)) hs
  | succ f => exact ⟨f, rfl⟩

theorem reads_of_readPlain {v : Scalar} {r : List Char}
    (h : readPlain (skipGap (writeScalar v).toList) = some (v, r)) (hr : skipGap r = [])
    (levels : Nat) : Reads levels (.scalar v) := by
  intro fuel rest hfuel hrest
  have hne : skipGap (writeScalar v).toList ≠ [] := by
    intro hnil
    rw [hnil, readPlain_nil] at h
    exact absurd h (by simp)
  have hskip : skipGap ((writeScalar v).toList ++ rest)
      = skipGap (writeScalar v).toList ++ rest := by
    unfold skipGap at hne ⊢
    rw [List.dropWhile_append, if_neg (by simpa using hne)]
  obtain ⟨fuel, rfl⟩ := exists_fuel hfuel fun hnil => by
    have hnil : (writeScalar v).toList = [] := hnil
    rw [hnil] at hne
    exact hne rfl
  refine ⟨r ++ rest, ?_, ?_⟩
  · show readValue (fuel + 1) levels (skipGap ((writeScalar v).toList ++ rest)) = _
    rw [hskip]
    refine readValue_of_readPlain ?_ fuel levels
    rw [readPlain_append hrest, h]
    rfl
  · unfold skipGap at hr ⊢
    rw [List.dropWhile_append, hr]
    rfl

theorem reads_scalar {v : Scalar} (h : ∀ x, v = .float x → ReadsBack x)
    (hw : isWritable (.scalar v) = true) (levels : Nat) : Reads levels (.scalar v) := by
  cases v with
  | null => exact reads_of_readPlain (r := []) (by decide) rfl levels
  | bool b => cases b <;> exact reads_of_readPlain (r := []) (by decide) rfl levels
  | int n =>
    have hread : readPlain (writeScalar (.int n)).toList = some (.int n, []) :=
      readPlain_int (of_decide_eq_true hw)
    refine reads_of_readPlain (r := []) ?_ rfl levels
    rw [skipGap_of_readPlain hread, hread]
  | float x =>
    obtain ⟨⟨d, r⟩, hread, hend⟩ := bind_eq_ok_iff.mp (h x rfl)
    dsimp only at hend
    split at hend
    · rename_i hr
      obtain rfl : d = .float x := Except.ok.inj hend
      exact reads_of_readPlain (readPlain_of_readValue hread) hr levels
    · exact absurd hend (by simp)
  | text t =>
    intro fuel rest hfuel _
    have htext : (write (.text t)).toList ++ rest
        = '"' :: (t.toList.flatMap escapeChar ++ '"' :: rest) := toList_writeText t rest
    obtain ⟨fuel, rfl⟩ := exists_fuel hfuel fun hnil => by
      have hquote := toList_writeText t []
      rw [List.append_nil] at hquote
      exact absurd (hquote.symm.trans hnil) (by simp)
    refine ⟨rest, ?_, rfl⟩
    rw [htext, skipGap_of_not_gap (by decide), readValue, readText_writeText]
    rfl

/-! ## Lists -/

/-- The texts of the parts of a container, with their separators. -/
def joined (parts : List String) : List Char := (", ".intercalate parts).toList

theorem joined_nil : joined [] = [] := rfl

theorem joined_singleton (p : String) : joined [p] = p.toList := by
  rw [joined, String.intercalate_singleton]

theorem joined_cons (p q : String) (ps : List String) :
    joined (p :: q :: ps) = p.toList ++ ',' :: ' ' :: joined (q :: ps) := by
  simp [joined, String.intercalate_cons_cons]

theorem toList_write_list (items : List Document) (rest : List Char) :
    (write (.list items)).toList ++ rest = '[' :: (joined (items.map write) ++ ']' :: rest) := by
  rw [write, writeItems_eq]
  simp [joined]

/-- No value starts with the bracket that closes a list. -/
theorem readItems_closed (fuel levels : Nat) (s : List Char) :
    ∃ f, readItems fuel levels (']' :: s) = .error f := by
  cases fuel with
  | zero => exact ⟨_, rfl⟩
  | succ fuel =>
    have hvalue : readValue fuel levels (']' :: s) = .error .malformed := by
      cases fuel with
      | zero => rfl
      | succ fuel =>
        rw [readValue]
        · show (orMalformed (readPlain (']' :: s)) >>= _) = _
          rw [readPlain_eq_none (by decide)]
          rfl
        all_goals simp
    rw [readItems, hvalue]
    exact ⟨_, rfl⟩

theorem readItems_last {fuel levels : Nat} {s r rest : List Char} {d : Document}
    (hd : readValue fuel levels s = .ok (d, r)) (hr : skipGap r = ']' :: rest) :
    readItems (fuel + 1) levels s = .ok ([d], rest) := by
  rw [readItems]
  refine bind_eq_ok_iff.mpr ⟨(d, r), hd, ?_⟩
  dsimp only
  rw [hr]
  rfl

theorem readItems_cons {fuel levels : Nat} {s r u rest : List Char} {d : Document}
    {ds : List Document} (hd : readValue fuel levels s = .ok (d, r)) (hr : skipGap r = ',' :: u)
    (hds : readItems fuel levels (skipGap u) = .ok (ds, rest)) :
    readItems (fuel + 1) levels s = .ok (d :: ds, rest) := by
  rw [readItems]
  refine bind_eq_ok_iff.mpr ⟨(d, r), hd, ?_⟩
  dsimp only
  rw [hr]
  exact bind_eq_ok_iff.mpr ⟨(ds, rest), hds, rfl⟩

theorem reads_items {levels : Nat} {items : List Document} (h : ∀ d ∈ items, Reads levels d)
    (hne : items ≠ []) (fuel : Nat) (rest : List Char)
    (hfuel : 2 * (joined (items.map write)).length + 1 ≤ fuel) :
    readItems fuel levels (skipGap (joined (items.map write) ++ ']' :: rest))
      = .ok (items, rest) := by
  -- every item is stopped by the comma after it or, if it is the last, by the bracket
  induction items generalizing fuel with
  | nil => exact absurd rfl hne
  | cons d ds ih =>
    obtain ⟨fuel, rfl⟩ : ∃ f, fuel = f + 1 := ⟨fuel - 1, by omega⟩
    have hd := h d List.mem_cons_self
    cases ds with
    | nil =>
      rw [List.map_singleton, joined_singleton] at hfuel ⊢
      obtain ⟨r, hr, hgap⟩ := hd fuel (']' :: rest) (by omega) (by simp [Stops])
      rw [skipGap_of_not_gap (by decide)] at hgap
      exact readItems_last hr hgap
    | cons d' ds =>
      rw [List.map_cons, List.map_cons, joined_cons, ← List.map_cons] at hfuel ⊢
      rw [List.length_append, List.length_cons, List.length_cons] at hfuel
      rw [List.append_assoc, List.cons_append]
      obtain ⟨r, hr, hgap⟩ := hd fuel (',' :: (' ' :: joined ((d' :: ds).map write) ++ ']' :: rest))
        (by omega) (by simp [Stops])
      rw [skipGap_of_not_gap (by decide)] at hgap
      refine readItems_cons hr hgap ?_
      rw [List.cons_append, skipGap_of_gap (by decide)]
      exact ih (fun x hx => h x (List.mem_cons_of_mem _ hx)) (by simp) fuel (by omega)

theorem reads_list {levels : Nat} {items : List Document} (h : ∀ d ∈ items, Reads levels d) :
    Reads (levels + 1) (.list items) := by
  intro fuel rest hfuel _
  obtain ⟨fuel, rfl⟩ := exists_fuel hfuel (by
    have hhead := toList_write_list items []
    rw [List.append_nil] at hhead
    rw [hhead]
    simp)
  refine ⟨rest, ?_, rfl⟩
  rw [toList_write_list, skipGap_of_not_gap (by decide), readValue, if_neg (Nat.succ_ne_zero _)]
  by_cases hne : items = []
  · subst hne
    rw [List.map_nil, joined_nil, List.nil_append, skipGap_of_not_gap (by decide)]
    rfl
  · have hlen := congrArg List.length (toList_write_list items [])
    simp only [List.append_nil, List.length_cons, List.length_append, List.length_nil] at hlen
    have hitems := reads_items h hne fuel rest (by omega)
    split
    · -- the list is not empty, so it cannot be closed at once
      rename_i u hu
      rw [hu] at hitems
      obtain ⟨f, hf⟩ := readItems_closed fuel levels u
      rw [hf] at hitems
      exact absurd hitems (by simp)
    · rw [Nat.add_sub_cancel, hitems]
      rfl

/-! ## Maps -/

theorem readEntries_last {fuel levels : Nat} {s r u rest : List Char} {k : String} {d : Document}
    (hk : readText s = some (k, ':' :: ' ' :: r))
    (hd : readValue fuel levels (skipGap r) = .ok (d, u)) (hu : skipGap u = '\x7d' :: rest) :
    readEntries (fuel + 1) levels ('"' :: s) = .ok ([(k, d)], rest) := by
  rw [← skipGap_of_gap (c := ' ') rfl r] at hd
  rw [readEntries, hk]
  refine bind_eq_ok_iff.mpr ⟨(k, ':' :: ' ' :: r), rfl, ?_⟩
  refine bind_eq_ok_iff.mpr ⟨(d, u), hd, ?_⟩
  dsimp only
  rw [hu]
  rfl

theorem readEntries_cons {fuel levels : Nat} {s r u v rest : List Char} {k : String}
    {d : Document} {es : List (String × Document)}
    (hk : readText s = some (k, ':' :: ' ' :: r))
    (hd : readValue fuel levels (skipGap r) = .ok (d, u)) (hu : skipGap u = ',' :: v)
    (hes : readEntries fuel levels (skipGap v) = .ok (es, rest)) :
    readEntries (fuel + 1) levels ('"' :: s) = .ok ((k, d) :: es, rest) := by
  rw [← skipGap_of_gap (c := ' ') rfl r] at hd
  rw [readEntries, hk]
  refine bind_eq_ok_iff.mpr ⟨(k, ':' :: ' ' :: r), rfl, ?_⟩
  refine bind_eq_ok_iff.mpr ⟨(d, u), hd, ?_⟩
  dsimp only
  rw [hu]
  exact bind_eq_ok_iff.mpr ⟨(es, rest), hes, rfl⟩

theorem toList_writeEntry (e : String × Document) (rest : List Char) :
    (writeEntry e).toList ++ rest
      = '"' :: (e.1.toList.flatMap escapeChar
        ++ '"' :: ':' :: ' ' :: ((write e.2).toList ++ rest)) := by
  simp [writeEntry, writeText]

theorem toList_write_map (entries : List (String × Document)) (rest : List Char) :
    (write (.map entries)).toList ++ rest
      = '\x7b' :: (joined (entries.map writeEntry) ++ '\x7d' :: rest) := by
  rw [write, writeEntries_eq]
  simp [joined]

theorem reads_entries {levels : Nat} {entries : List (String × Document)}
    (h : ∀ e ∈ entries, Reads levels e.2) (hne : entries ≠ []) (fuel : Nat) (rest : List Char)
    (hfuel : 2 * (joined (entries.map writeEntry)).length + 1 ≤ fuel) :
    readEntries fuel levels (skipGap (joined (entries.map writeEntry) ++ '\x7d' :: rest))
      = .ok (entries, rest) := by
  induction entries generalizing fuel with
  | nil => exact absurd rfl hne
  | cons e es ih =>
    obtain ⟨fuel, rfl⟩ : ∃ f, fuel = f + 1 := ⟨fuel - 1, by omega⟩
    have he := h e List.mem_cons_self
    have hlen : (write e.2).toList.length ≤ (writeEntry e).toList.length := by
      have htext := congrArg List.length (toList_writeEntry e [])
      simp only [List.append_nil, List.length_cons, List.length_append] at htext
      omega
    cases es with
    | nil =>
      rw [List.map_singleton, joined_singleton] at hfuel ⊢
      obtain ⟨r, hr, hgap⟩ := he fuel ('\x7d' :: rest) (by omega) (by simp [Stops])
      rw [skipGap_of_not_gap (by decide)] at hgap
      rw [toList_writeEntry, skipGap_of_not_gap (by decide)]
      exact readEntries_last (readText_writeText _ _) hr hgap
    | cons e' es =>
      rw [List.map_cons, List.map_cons, joined_cons, ← List.map_cons] at hfuel ⊢
      rw [List.length_append, List.length_cons, List.length_cons] at hfuel
      rw [List.append_assoc, List.cons_append]
      obtain ⟨r, hr, hgap⟩ := he fuel
        (',' :: (' ' :: joined ((e' :: es).map writeEntry) ++ '\x7d' :: rest))
        (by omega) (by simp [Stops])
      rw [skipGap_of_not_gap (by decide)] at hgap
      rw [toList_writeEntry, skipGap_of_not_gap (by decide)]
      refine readEntries_cons (readText_writeText _ _) hr hgap ?_
      rw [List.cons_append, skipGap_of_gap (by decide)]
      exact ih (fun x hx => h x (List.mem_cons_of_mem _ hx)) (by simp) fuel (by omega)

theorem reads_map {levels : Nat} {entries : List (String × Document)}
    (hnd : (entries.map Prod.fst).Nodup) (h : ∀ e ∈ entries, Reads levels e.2) :
    Reads (levels + 1) (.map entries) := by
  intro fuel rest hfuel _
  obtain ⟨fuel, rfl⟩ := exists_fuel hfuel (by
    have hhead := toList_write_map entries []
    rw [List.append_nil] at hhead
    rw [hhead]
    simp)
  refine ⟨rest, ?_, rfl⟩
  rw [toList_write_map, skipGap_of_not_gap (by decide), readValue, if_neg (Nat.succ_ne_zero _)]
  by_cases hne : entries = []
  · subst hne
    rw [List.map_nil, joined_nil, List.nil_append, skipGap_of_not_gap (by decide)]
    rfl
  · have hlen := congrArg List.length (toList_write_map entries [])
    simp only [List.append_nil, List.length_cons, List.length_append, List.length_nil] at hlen
    have hentries := reads_entries h hne fuel rest (by omega)
    have hmap : (OrderedMap.ofList entries).entries = entries :=
      congrArg OrderedMap.entries (OrderedMap.ofList_entries ⟨entries, hnd⟩)
    split
    · -- an entry starts with a quote, not with the closing brace
      rename_i u hu
      rw [hu] at hentries
      cases fuel with
      | zero => exact absurd hentries (by simp [readEntries])
      | succ fuel => exact absurd hentries (by simp [readEntries])
    · rw [Nat.add_sub_cancel, hentries]
      show Except.ok (Document.map (OrderedMap.ofList entries).entries, rest) = _
      rw [hmap]

/-! ## Documents -/

theorem Readable.reads {levels : Nat} {d : Document} (h : Readable levels d)
    (hw : isWritable d = true) : Reads levels d := by
  induction h with
  | scalar h => exact reads_scalar h hw _
  | list _ ih => exact reads_list fun d hd => ih d hd (isWritable_list.mp hw d hd)
  | map hnd _ ih => exact reads_map hnd fun e he => ih e he (isWritable_map.mp hw e he)

/-- **What can be written is read as the same document.** -/
theorem read_write {d : Document} (h : Readable maxDepth d) (hw : isWritable d = true) :
    read (write d) = .ok d := by
  obtain ⟨r, hr, hgap⟩ := h.reads hw (2 * (write d).toList.length + 1) [] (by omega) Stops.nil
  rw [List.append_nil] at hr
  show (readValue (2 * (write d).toList.length + 1) maxDepth (skipGap (write d).toList) >>= _) = _
  rw [hr]
  exact if_pos hgap

end PropertyGraph.Json
