import PropertyGraph.Proofs.Effects

/-!
# What lines can bring a store into

Two checks that know nothing of each other meet in a creation: the reader of lines decides what a
type and a property map look like, and the store decides which of them it accepts. Nothing that the
reader lets through is refused. A type is a name, so it is neither blank nor trimmed; an entry
without a key is passed over, so no key is empty; a value is always a scalar; and an id that is
drawn starts with a word. What is left for a creation to fail at is the drawing: it gives up when
every id it draws is taken.

So a batch stops at its length, at a line that is malformed, or at a drawing, and at no error about
its data. Besides, a line may name an integer with too many digits, and that is not reported.
-/

namespace PropertyGraph

open Text

/-! ## Drawing ids -/

/-- The tokens that come next. -/
def TokenSource.upcoming (t : TokenSource) : Nat → List String
  | 0 => []
  | k + 1 => t.next.1 :: t.next.2.upcoming k

/-- The ids that a drawing tries, in turn. -/
def TokenSource.candidates (t : TokenSource) (word : String) : List String :=
  (t.upcoming idAttempts).map fun token => word ++ "_" ++ token

/-- A drawing of ids tries those of the next tokens, and takes the first that is free. -/
theorem fst_firstFree (word : String) (taken : String → Bool) (n : Nat) (t : TokenSource) :
    (firstFree (fun t => (word ++ "_" ++ t.next.1, t.next.2)) taken n t).1
      = (((t.upcoming n).map fun token => word ++ "_" ++ token).find? (!taken ·)).elim
          (.error .noFreeId) .ok := by
  induction n generalizing t with
  | zero => rfl
  | succ n ih =>
    rw [firstFree, TokenSource.upcoming, List.map_cons, List.find?_cons]
    dsimp only
    cases taken (word ++ "_" ++ t.next.1) with
    | true => exact ih t.next.2
    | false => rfl

/-- A drawing gives an id that is free, unless all that it tries are taken. -/
theorem drawId_cases (word : String) (taken : String → Bool) (t : TokenSource) :
    (∃ id tokens, id ∈ t.candidates word ∧ taken id = false
        ∧ drawId word taken t = (.ok id, tokens))
    ∨ (∀ id ∈ t.candidates word, taken id = true)
      ∧ ∃ tokens, drawId word taken t = (.error .noFreeId, tokens) := by
  have hdrawn : (drawId word taken t).1 = _ := fst_firstFree word taken idAttempts t
  cases hfind : (t.candidates word).find? (!taken ·) with
  | some id =>
    have hfree := List.find?_some hfind
    refine Or.inl ⟨id, _, List.mem_of_find?_eq_some hfind, by simpa using hfree, Prod.ext ?_ rfl⟩
    unfold TokenSource.candidates at hfind
    rw [hdrawn, hfind]
    rfl
  | none =>
    have htaken : ∀ id ∈ t.candidates word, taken id = true := by
      intro id hid
      have hid := List.find?_eq_none.mp hfind id hid
      simpa using hid
    refine Or.inr ⟨htaken, _, Prod.ext ?_ rfl⟩
    unfold TokenSource.candidates at hfind
    rw [hdrawn, hfind]
    rfl

theorem not_blank_of_candidate {word id : String} {t : TokenSource} (h : id ∈ t.candidates word)
    (hword : isBlankText word = false) : isBlankText id = false := by
  obtain ⟨token, -, rfl⟩ := List.mem_map.mp h
  unfold isBlankText at hword ⊢
  rw [String.toList_append, String.toList_append, List.all_append, List.all_append, hword]
  rfl

/-! ## What lines ask for -/

theorem not_blank_of_name {s : String} (hne : s ≠ "") (h : ∀ c ∈ s.toList, isWord c = true) :
    isBlankText s = false := by
  obtain ⟨c, cs, hs⟩ := List.exists_cons_of_ne_nil fun hs => hne (String.toList_eq_nil_iff.mp hs)
  have hc := not_blank_of_word (h c (hs ▸ List.mem_cons_self))
  unfold isBlankText
  rw [hs, List.all_cons, hc, Bool.false_and]

/-- An entry of a literal has a key. -/
theorem Literal.key_ne_of_entry {s w : List Char} {k : String} (h : entry? s = some (k, w)) :
    k ≠ "" := by
  unfold entry? at h
  split at h
  · exact absurd h (by simp)
  · split at h
    · exact absurd h (by simp)
    · rename_i hkey
      obtain rfl := congrArg Prod.fst (Option.some.inj h)
      intro hempty
      exact hkey (String.ofList_eq_empty_iff.mp hempty)

/-- The keys of the pairs that are read are those of the entries. -/
theorem Literal.keys_of_pairs {es : List (List Char)} {ps : List (String × Scalar)}
    (h : pairs es = .ok ps) : ps.map Prod.fst = (es.filterMap entry?).map Prod.fst := by
  have hall := mapM_eq_ok_iff.mp h
  clear h
  generalize es.filterMap entry? = qs at hall ⊢
  induction hall with
  | nil => rfl
  | @cons e p es ps he _ ih =>
    have hkey : p.1 = e.1 := by
      cases hv : value e.2 with
      | error n => simp [hv, Except.map] at he
      | ok v =>
        rw [hv] at he
        rw [← Except.ok.inj he]
    rw [List.map_cons, List.map_cons, ih, hkey]

theorem Literal.valid_of_parse {body : String} {ps : Properties} (h : parse body = .ok ps) :
    ps.Valid := by
  obtain ⟨es, -, h⟩ := bind_eq_ok_iff.mp h
  obtain ⟨qs, hqs, hps⟩ := bind_eq_ok_iff.mp h
  rw [← Except.ok.inj hps, Properties.valid_iff]
  intro k hk
  -- a key of the map is the key of an entry
  have hkey := OrderedMap.mem_keys_ofList hk
  rw [keys_of_pairs (mapError_eq_ok_iff.mp hqs)] at hkey
  obtain ⟨e, he, rfl⟩ := List.mem_map.mp hkey
  obtain ⟨s, -, hs⟩ := List.mem_filterMap.mp he
  exact key_ne_of_entry hs

/-- A literal is refused for a quote in it that stays open only. -/
theorem Literal.fault_of_parse {body : String} {fault : Command.Fault}
    (h : parse body = .error (.reported fault)) :
    ∃ quote content, fault = .unclosedQuote quote content := by
  obtain hsplit | ⟨es, -, h⟩ := bind_eq_error_iff.mp h
  · obtain ⟨f, hopen, hf⟩ := mapError_eq_error_iff.mp hsplit
    obtain rfl := Halt.reported.inj hf
    unfold splitEntries at hopen
    split at hopen
    · exact ⟨_, _, (Except.error.inj hopen).symm⟩
    · exact absurd hopen (by simp)
  · obtain hpairs | ⟨_, -, h⟩ := bind_eq_error_iff.mp h
    · obtain ⟨n, -, hn⟩ := mapError_eq_error_iff.mp hpairs
      exact nomatch hn
    · exact nomatch h

namespace Shape

theorem ne_empty_of_nodeHead? {s r : List Char} {n : Option String} {type : String}
    (h : Reading.nodeHead? s = some (n, type, r)) : type ≠ "" := by
  unfold Reading.nodeHead? at h
  split at h
  · obtain ⟨⟨type', r'⟩, hname, h⟩ := Option.map_eq_some_iff.mp h
    obtain rfl : type' = type := congrArg (fun p => p.2.1) h
    exact (Grammar.name?_eq_some_iff.mp hname).2
  · split at h
    · exact absurd h (by simp)
    · rename_i hfirst
      obtain rfl : (splitName s).1 = type := congrArg (fun p => p.2.1) (Option.some.inj h)
      exact hfirst

/-- A line that is a creation names a type and properties that are in order. -/
theorem proper_of_readCreate {line name type : String} {ps : Properties}
    (h : readCreate line = .ok (some (.create name type ps))) : type ≠ "" ∧ ps.Valid := by
  unfold readCreate at h
  split at h
  · exact absurd h (by simp)
  · split at h
    · exact absurd h (by simp)
    · split at h
      · exact absurd h (by simp)
      · rename_i n type' literal hnode
        obtain ⟨ps', hps, h⟩ := bind_eq_ok_iff.mp h
        obtain ⟨-, rfl, rfl⟩ := Action.create.inj (Option.some.inj (Except.ok.inj h))
        obtain ⟨_, _, _, hhead, _⟩ := Reading.createdNode?_eq_some_iff.mp hnode
        refine ⟨ne_empty_of_nodeHead? hhead, ?_⟩
        cases literal with
        | none =>
          rw [← Except.ok.inj hps]
          exact Properties.valid_empty
        | some body => exact Literal.valid_of_parse hps

/-- What is wrong with a line is that it is no creation, or that a quote in it stays open. -/
theorem fault_of_readCreate {line : String} {fault : Command.Fault}
    (h : readCreate line = .error (.reported fault)) :
    fault = .malformedCreate line ∨ ∃ quote content, fault = .unclosedQuote quote content := by
  unfold readCreate at h
  split at h
  · exact absurd h (by simp)
  · split at h
    · exact absurd h (by simp)
    · split at h
      · exact Or.inl (Halt.reported.inj (Except.error.inj h)).symm
      · rename_i n type literal hnode
        obtain hparse | ⟨_, -, h⟩ := bind_eq_error_iff.mp h
        · cases literal with
          | none => exact absurd hparse (by simp [pure, Except.pure])
          | some body => exact Or.inr (Literal.fault_of_parse hparse)
        · exact absurd h (by simp [pure, Except.pure])

/-- A line that is stopped at a numeral is a creation whose literal has it. -/
theorem long_of_readCreate {line : String} (ht : Trimmed line.toList) {n : Decimal.LongNumeral}
    (h : readCreate line = .error (.longNumeral n)) :
    ∃ name type body, line.toList ∈ (Reading.create name type (some body)).lines
      ∧ Literal.FirstLong body.toList n := by
  by_cases hcreate : line.toList ∈ Grammar.keyword "create" * Grammar.boundary
  · obtain ⟨r, hr, hasks⟩ := asks_readCreate ht hcreate
    obtain rfl : r = .error (.longNumeral n) := by
      rw [h] at hr
      cases r with
      | error halt => exact congrArg Except.error (Except.error.inj hr).symm
      | ok a => exact absurd hr (by simp [Except.map])
    generalize hq : (Except.error (.longNumeral n) : Except (Halt Command.Fault) Action) = q
      at hasks
    cases hasks with
    | reading p hp _ =>
      cases p with
      | create name type body =>
        cases body with
        | none => exact nomatch hq
        | some body =>
          obtain hparse | ⟨_, -, hpure⟩ := bind_eq_error_iff.mp hq.symm
          · exact ⟨name, type, body, hp, (Literal.parse_braced_eq_longNumeral_iff.mp hparse).2⟩
          · exact nomatch hpure
      | _ => exact nomatch hq
    | malformed => exact nomatch hq
    | unknown => exact nomatch hq
  · rw [readCreate_of_not_mem hcreate] at h
    exact nomatch h

/-- The shape of creations is the only one that can fail. -/
theorem readCreate_of_stop {shapes : List Shape} {line : String} {halt : Halt Command.Fault}
    (h : readFirst line shapes = .error halt) : readCreate line = .error halt := by
  induction shapes with
  | nil => exact absurd h (by simp [readFirst])
  | cons shape shapes ih =>
    rw [readFirst_cons] at h
    split at h
    · rename_i halt' hread
      obtain rfl := Except.error.inj h
      cases shape with
      | create => exact hread
      | _ => exact absurd hread (by simp [read?])
    · exact absurd h (by simp)
    · exact ih h

end Shape

/-- The line of a batch is not blank, so that there is a command to read. -/
theorem Batch.trim_ne_of_mem_lines {text line : String} (h : line ∈ lines text) :
    trim line ≠ "" := by
  obtain ⟨s, hs, rfl⟩ := List.mem_map.mp h
  obtain ⟨hs, hne⟩ := List.mem_filter.mp hs
  obtain ⟨u, -, rfl⟩ := List.mem_map.mp hs
  intro hempty
  -- lines are trimmed already, and trimming them again changes nothing
  rw [trim, String.toList_ofList, strip_of_trimmed (strip_trimmed u),
    String.ofList_eq_empty_iff] at hempty
  exact (of_decide_eq_true hne) hempty

/-- A line that is not blank fails as a creation fails. -/
theorem Command.readCreate_of_error {shapes : List Shape} {line : String} {halt : Halt Fault}
    (hline : trim line ≠ "") (h : parse shapes line = .error halt) :
    Shape.readCreate (trim line) = .error halt := by
  unfold parse at h
  dsimp only at h
  rw [if_neg hline] at h
  -- the shapes are tried, and what is none of them is unknown and no fault
  obtain h | ⟨_, -, h⟩ := bind_eq_error_iff.mp h
  · exact Shape.readCreate_of_stop h
  · exact absurd h (by simp [pure, Except.pure])

/-! ## Creations -/

/-- The ids that the creation of a node draws until one is free, in turn. -/
def Supply.nodeIds (supply : Supply) : List String := supply.tokens.candidates Store.nodeWord

/-- Tokens that come more than once. -/
def Supply.repeating : Supply := ⟨⟨["x", "x", "y"], fun _ => "x", 0⟩, .still 0⟩

/-- The draft of a node that a line asks for. -/
def NodeDraft.ofLine (type : String) (properties : Properties) : NodeDraft :=
  ⟨.text type, properties.toEntries, [], none⟩

namespace Store

variable {s : Store} {supply : Supply} {name type : String} {properties : Properties}

/-- What comes of a creation that a line asks for. -/
structure Grants (s : Store) (supply : Supply) (c : Command) (name type : String)
    (properties : Properties) : Prop where
  /-- If an id is free, a node is added at the end, and the outcome reports what it is. -/
  created : (∃ id ∈ supply.nodeIds, s.hasNode id = false) →
    ∃ n t rest, s.createNode (.ofLine type properties) supply = (.ok n.id, t, rest)
      ∧ s.execute supply c = (.ok ⟨c, .created n.id name n.type n.properties⟩, t, rest)
      ∧ n.id ∈ supply.nodeIds ∧ s.hasNode n.id = false ∧ n.type = type
      ∧ n.properties = properties ∧ t.nodes.entries = s.nodes.entries ++ [(n.id, n)]
      ∧ t.relationships = s.relationships
  /-- If no id is free, it is refused for that, and the store is as it was. -/
  refused : (∀ id ∈ supply.nodeIds, s.hasNode id = true) →
    ∃ rest, s.createNode (.ofLine type properties) supply = (.error .noFreeId, s, rest)
      ∧ s.execute supply c = (.error .noFreeId, s, rest)

/-- A node with the type and the properties of a line is valid under any id that is not blank. -/
theorem valid_of_line {id : String} {t : DateTime} (hid : isBlankText id = false)
    (hne : type ≠ "") (hword : ∀ c ∈ type.toList, isWord c = true) (hvalid : properties.Valid) :
    Node.Valid ⟨id, type, properties, [], t, t⟩ where
  id := hid
  type := not_blank_of_name hne hword
  trimmed := trimmed_of_forall fun c hc => not_blank_of_word (hword c hc)
  properties := hvalid

/-- Past the drawing nothing is refused: the parts of the node are as they have to be. -/
theorem createNode_of_drawn {id : String} {tokens : TokenSource}
    (hn : ∀ t, Node.Valid ⟨id, type, properties, [], t, t⟩)
    (hdraw : drawId nodeWord s.hasNode supply.tokens = (.ok id, tokens)) :
    ∃ n t rest, s.createNode (.ofLine type properties) supply = (.ok id, t, rest)
      ∧ n.id = id ∧ n.type = type ∧ n.properties = properties
      ∧ t.nodes = s.nodes.insert id n ∧ t.relationships = s.relationships := by
  let stamp := s.stamp { supply with tokens }
  let n : Node := ⟨id, type, properties, [], stamp.1, stamp.1⟩
  have hcheck := (hn stamp.1).check_again stamp.1
  refine ⟨n, stamp.2.1.putNode n, stamp.2.2, ?_, rfl, rfl, rfl, rfl, rfl⟩
  unfold createNode NodeDraft.ofLine newId
  simp only [draftType?_text (hn stamp.1).type, hdraw, Properties.ofList_toEntries]
  rw [show Node.check id type properties.toEntries [] _ _ = .accepted n from hcheck]

theorem execute_create {c : Command} (hc : c.action = .create name type properties) :
    s.execute supply c = match s.createNode (.ofLine type properties) supply with
      | (.error e, t, rest) => (.error e, t, rest)
      | (.ok id, t, rest) => (.ok ⟨c, .created id name type properties⟩, t, rest) := by
  unfold execute
  rw [hc]
  rfl

/-- **A creation that is read off a line is done, unless the ids run out.** -/
theorem grants_of_parse {shapes : List Shape} {line : String} {c : Command}
    (h : Command.parse shapes line = .ok c) (hc : c.action = .create name type properties) :
    s.Grants supply c name type properties := by
  have hread := Command.readCreate_of_parse h hc
  have hword := Shape.worded_readCreate hread
  obtain ⟨hne, hvalid⟩ := Shape.proper_of_readCreate hread
  -- what the line says is in order, so all depends on the drawing
  rcases drawId_cases nodeWord s.hasNode supply.tokens with
    ⟨id, tokens, hmem, hfree, hdraw⟩ | ⟨htaken, tokens, hdraw⟩
  · have hid := not_blank_of_candidate hmem (by decide)
    obtain ⟨n, t, rest, hcreate, rfl, rfl, rfl, hnodes, hrels⟩ :=
      createNode_of_drawn (fun t => valid_of_line hid hne hword hvalid) hdraw
    refine ⟨fun _ => ⟨n, t, rest, hcreate, ?_, hmem, hfree, rfl, rfl, ?_, hrels⟩, fun htaken => ?_⟩
    · rw [execute_create hc, hcreate]
    · rw [hnodes, OrderedMap.entries_insert_of_not_mem (OrderedMap.contains_eq_false_iff.mp hfree)]
    · exact absurd (htaken n.id hmem) (by simp [hfree])
  · have hcreate : s.createNode (.ofLine type properties) supply
        = (.error .noFreeId, s, { supply with tokens }) := by
      unfold createNode NodeDraft.ofLine newId
      simp only [draftType?_text (not_blank_of_name hne hword), hdraw]
    refine ⟨?_, fun _ => ⟨_, hcreate, ?_⟩⟩
    · rintro ⟨id, hid, hfree⟩
      exact absurd (htaken id hid) (by simp [hfree])
    · rw [execute_create hc, hcreate]

end Store

/-! ## Batches -/

/-- What a batch can stop at: its length, a malformed line, an open quote, or a drawing of ids. -/
inductive GraphError.StopsBatch : GraphError → Prop where
  | tooLong (size : Nat) (limit : Int) : StopsBatch (.batchTooLong size limit)
  | malformed (line : String) : StopsBatch (.command (.malformedCreate line))
  | unclosed (quote : Char) (content : String) :
    StopsBatch (.command (.unclosedQuote quote content))
  | noFreeId : StopsBatch .noFreeId

/-- What a batch can stop at is reported as a parse error or as a collision of ids. -/
theorem GraphError.StopsBatch.kind {e : GraphError} (h : e.StopsBatch) :
    e.report.kind = .parse ∨ e.report.kind = .collision := by
  cases h with
  | noFreeId => exact Or.inr rfl
  | _ => exact Or.inl rfl

namespace Store

open Batch

/-- A command that is read off a line is refused only if the ids run out. -/
theorem eq_noFreeId_of_step {shapes : List Shape} {line : String} {c : Command}
    {x y : Store × Supply} {e : GraphError} (hparse : Command.parse shapes line = .ok c)
    (h : step x c = (.error e, y)) : e = .noFreeId := by
  obtain ⟨s, supply⟩ := x
  cases hc : c.action with
  | create name type properties =>
    have hgrants : s.Grants supply c name type properties := grants_of_parse hparse hc
    have hstep : s.execute supply c = (.error e, y) := h
    by_cases hfree : ∃ id ∈ supply.nodeIds, s.hasNode id = false
    · obtain ⟨n, t, rest, -, hexecute, -⟩ := hgrants.created hfree
      rw [hexecute] at hstep
      exact absurd (congrArg Prod.fst hstep) (by simp)
    · have hall : ∀ id ∈ supply.nodeIds, s.hasNode id = true := by
        intro id hid
        by_contra hnot
        exact hfree ⟨id, hid, Bool.not_eq_true _ ▸ hnot⟩
      obtain ⟨rest, -, hexecute⟩ := hgrants.refused hall
      rw [hexecute] at hstep
      exact (Except.error.inj (congrArg Prod.fst hstep)).symm
  | _ =>
    unfold step execute at h
    rw [hc] at h
    exact absurd (congrArg Prod.fst h) (by simp)

/-- What a line that is not blank is stopped at, if that is reported. -/
theorem stopsBatch_of_line {shapes : List Shape} {line : String} {x y : Store × Supply}
    {e : GraphError} (hline : Text.trim line ≠ "")
    (h : runLines shapes step x [line] = (.error (.reported e), y)) : e.StopsBatch := by
  rw [runLines] at h
  cases hparse : Command.parse shapes line with
  | error halt =>
    rw [hparse] at h
    have hhalt := Except.error.inj (congrArg Prod.fst h)
    cases halt with
    | longNumeral n => cases hhalt
    | reported fault =>
      obtain rfl := Halt.reported.inj hhalt
      rcases Shape.fault_of_readCreate (Command.readCreate_of_error hline hparse) with
        rfl | ⟨quote, content, rfl⟩
      · exact .malformed _
      · exact .unclosed quote content
  | ok c =>
    rw [hparse] at h
    dsimp only at h
    split at h
    · rename_i e' t hstep
      obtain rfl := Halt.reported.inj (Except.error.inj (congrArg Prod.fst h))
      rw [eq_noFreeId_of_step hparse hstep]
      exact .noFreeId
    · exact absurd (congrArg Prod.fst h) (by simp [runLines, Except.map])

/-- A line that names, first of all that have too many digits, an integer of so many. -/
def NamesLong (line : String) (n : Decimal.LongNumeral) : Prop :=
  ∃ name type body, (Text.trim line).toList ∈ (Shape.Reading.create name type (some body)).lines
    ∧ Literal.FirstLong body.toList n

/-- What a line that is not blank is stopped at, if that is not reported. -/
theorem namesLong_of_line {shapes : List Shape} {line : String} {x y : Store × Supply}
    {n : Decimal.LongNumeral} (hline : Text.trim line ≠ "")
    (h : runLines shapes step x [line] = (.error (.longNumeral n), y)) : NamesLong line n := by
  have htrim : Trimmed (Text.trim line).toList := by
    rw [toList_trim]
    exact strip_trimmed _
  rw [runLines] at h
  cases hparse : Command.parse shapes line with
  | error halt =>
    rw [hparse] at h
    have hhalt := Except.error.inj (congrArg Prod.fst h)
    cases halt with
    | reported fault => cases hhalt
    | longNumeral m =>
      obtain rfl := Halt.longNumeral.inj hhalt
      exact Shape.long_of_readCreate htrim (Command.readCreate_of_error hline hparse)
  | ok c =>
    rw [hparse] at h
    dsimp only at h
    split at h
    · cases h
    · exact absurd (congrArg Prod.fst h) (by simp [runLines, Except.map])

/-- A batch stops at nothing else. -/
theorem stops_of_runBatch {s t : Store} {rules : BatchRules} {text : String}
    {supply rest : Supply} {stop : Halt BatchFailure}
    (h : s.runBatch rules text supply = (.error stop, t, rest)) :
    (∃ f, stop = .reported f ∧ f.cause.StopsBatch)
      ∨ ∃ n, stop = .longNumeral n ∧ ∃ line ∈ lines text, NamesLong line n := by
  by_cases hlong : rules.limit < (lines text).length
  · rw [runBatch_of_too_long hlong] at h
    obtain rfl := Except.error.inj (congrArg Prod.fst h)
    exact Or.inl ⟨_, rfl, .tooLong _ _⟩
  · obtain ⟨halt, rest', hrun, rfl, -⟩ := run_of_runBatch_error (Int.not_lt.mp hlong) h
    -- the line it stops at is one of those that are not blank
    obtain ⟨k, os, x, hk, -, hline⟩ := exists_stop_of_error hrun
    have hmem := List.getElem_mem hk
    cases halt with
    | reported e => exact Or.inl ⟨_, rfl, stopsBatch_of_line (trim_ne_of_mem_lines hmem) hline⟩
    | longNumeral n =>
      exact Or.inr ⟨n, rfl, _, hmem, namesLong_of_line (trim_ne_of_mem_lines hmem) hline⟩

/--
**Lines bring a store into no error about its data.** Whatever line is read as a creation, and in
whatever store, it adds the node that its outcome reports, unless all ids that it draws are taken;
and a batch stops at its length, at a line that is malformed, at an open quote or at a drawing of
ids, and at nothing else if no line of it names an integer with too many digits.
-/
theorem lines_refused_only_for_ids (s : Store) (rules : BatchRules) (supply : Supply) :
    (∀ line c name type properties, Command.parse rules.shapes line = .ok c →
      c.action = .create name type properties → s.Grants supply c name type properties)
    ∧ ∀ text stop, (s.runBatch rules text supply).1 = .error stop →
      (∃ f, stop = .reported f ∧ f.cause.StopsBatch
        ∧ (f.cause.report.kind = .parse ∨ f.cause.report.kind = .collision))
      ∨ ∃ n, stop = .longNumeral n ∧ ∃ line ∈ lines text, NamesLong line n := by
  refine ⟨fun line c name type properties hparse hc => grants_of_parse hparse hc, ?_⟩
  intro text stop hstop
  obtain ⟨f, rfl, hf⟩ | hlong := stops_of_runBatch (Prod.ext hstop rfl)
  · exact Or.inl ⟨f, rfl, hf, hf.kind⟩
  · exact Or.inr hlong

/-- A store with a node under an id that is drawn again. -/
def drawnOnce : Store :=
  ((Store.empty ⟨true, true⟩).createNode ⟨.text "A", [], [], some (.text "node_x")⟩ .repeating).2.1

/-- The first ids that are drawn are taken, a key comes twice, and a line is malformed. -/
theorem lines_refused_only_for_ids_drawnOnce :
    let properties : Properties := .ofList [("size", .int 2)]
    let c : Command := ⟨"CREATE (a:B {size: 1, size: 2})", .create "a" "B" properties⟩
    Command.parse Shape.all c.text = .ok c
      ∧ (∃ id ∈ Supply.repeating.nodeIds, drawnOnce.hasNode id = false)
      ∧ drawnOnce.Grants .repeating c "a" "B" properties
      ∧ (drawnOnce.runBatch ⟨Shape.all, 2⟩ "CREATE (a:B)\nCREATE (" .repeating).1
          = .error (.reported ⟨.command (.malformedCreate "CREATE ("), "CREATE (a:B)\nCREATE (",
              .ofInstant 0⟩)
      ∧ (GraphError.command (.malformedCreate "CREATE (")).StopsBatch := by
  intro properties c
  have hparse : Command.parse Shape.all c.text = .ok c := by decide +kernel
  have hstop : (drawnOnce.runBatch ⟨Shape.all, 2⟩ "CREATE (a:B)\nCREATE (" .repeating).1
      = .error (.reported ⟨.command (.malformedCreate "CREATE ("), "CREATE (a:B)\nCREATE (",
          .ofInstant 0⟩) := rfl
  have hlines := lines_refused_only_for_ids drawnOnce ⟨Shape.all, 2⟩ .repeating
  refine ⟨hparse, by decide +kernel, hlines.1 c.text c "a" "B" properties hparse rfl, hstop, ?_⟩
  obtain ⟨f, hf, hstops, -⟩ | ⟨n, hn, -⟩ := hlines.2 _ _ hstop
  · obtain rfl := Halt.reported.inj hf
    exact hstops
  · exact nomatch hn

end Store

end PropertyGraph
