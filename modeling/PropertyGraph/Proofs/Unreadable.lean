import PropertyGraph.Proofs.Refusal
import PropertyGraph.Proofs.Restore

/-!
# What is told of blobs that cannot be read

A blob may hold anything. Most of what is no snapshot is told of as a fault of the archive: bytes
that are no text, text that is no document, and a map whose elements or title are refused, whatever
stands in their places. The reading breaks off at two kinds of content: a document that is no map,
and one that is nested too deeply. `told_load_iff` says that there is no third, and that a
restoration is told of exactly where the loading of its blob is.
-/

namespace PropertyGraph

/-! ## Faults of documents -/

namespace Snapshot

/-- Reading elements never ends for want of a map: their documents are read by checks. -/
theorem readElements_ne_notMap {α : Type} {entries : List (String × Document)} {key : String}
    {model : Model} {read : Document → Checked α} :
    readElements entries key model read ≠ .error .notMap := by
  have hitems : ∀ items : List Document,
      (items.mapM fun d => (read d).toExcept.mapError (Fault.refused model)) ≠ .error .notMap := by
    intro items h
    obtain ⟨_, d, _, -, -, hd⟩ := mapM_eq_error_iff.mp h
    obtain ⟨_, -, hf⟩ := mapError_eq_error_iff.mp hd
    exact nomatch hf
  unfold readElements
  split
  · exact nofun
  · exact hitems _

/-- Whatever the entries of a map are, the document is not refused for being none. -/
theorem ofDocument_eq_notMap_iff {d : Document} :
    ofDocument d = .error .notMap ↔ ∀ entries, d ≠ .map entries := by
  constructor
  · rintro h entries rfl
    obtain hnodes | ⟨_, -, h⟩ := bind_eq_error_iff.mp h
    · exact readElements_ne_notMap hnodes
    obtain hrels | ⟨_, -, h⟩ := bind_eq_error_iff.mp h
    · exact readElements_ne_notMap hrels
    obtain htitle | ⟨_, -, h⟩ := bind_eq_error_iff.mp h
    · obtain ⟨_, -, hf⟩ := mapError_eq_error_iff.mp htitle
      exact nomatch hf
    · exact nomatch h
  · intro h
    cases d with
    | scalar v => rfl
    | list items => rfl
    | map entries => exact absurd rfl (h entries)

end Snapshot

/-! ## Faults of blobs -/

namespace Archive

variable {a : Archive} {id : String} {content : ByteArray} {text : String} {d : Document}

/-- Content that breaks off its reading. -/
inductive BreaksOff (content : ByteArray) : Prop where
  /-- Its document is nested too deeply. -/
  | tooDeep {text : String} {container : Json.Container}
    (htext : String.fromUTF8? content = some text)
    (hread : Json.read text = .error (.tooDeep container))
  /-- Its document is no map. -/
  | notMap {text : String} {d : Document} (htext : String.fromUTF8? content = some text)
    (hread : Json.read text = .ok d) (hd : ∀ entries, d ≠ .map entries)

/-- What a caller is told who loads a blob: a snapshot, or a report of the archive. -/
inductive Told : Except Fault Snapshot → Prop where
  | loaded (g : Snapshot) : Told (.ok g)
  | reported {f : Fault} {r : ErrorReport} (report : f.report? = some r) (kind : r.kind = .storage)
    (message : r.message = f.message)
    (operation : ("operation", .text Fault.operation) ∈ r.details) : Told (.error f)

namespace Fault

theorem report?_unreadable_eq_none_iff {fault : ContentFault} :
    (unreadable id fault).report? = none
      ↔ (∃ container, fault = .notJson (.tooDeep container)) ∨ fault = .notSnapshot .notMap := by
  rcases fault with _ | (_ | container) | (_ | _ | ⟨model, vs⟩) <;> simp [report?]

/-- Faults that are reported are reported as the archive's, met while loading. -/
theorem report?_eq_some {f : Fault} {r : ErrorReport} (h : f.report? = some r) :
    r.kind = .storage ∧ r.message = f.message ∧ ("operation", .text operation) ∈ r.details := by
  rcases f with id | ⟨id, _ | (_ | container) | (_ | _ | ⟨model, vs⟩)⟩ <;> cases h
  all_goals exact ⟨rfl, rfl, List.mem_cons_self⟩

theorem told_of_report? {f : Fault} {r : ErrorReport} (h : f.report? = some r) :
    Told (.error f) := by
  obtain ⟨hkind, hmessage, hoperation⟩ := report?_eq_some h
  exact .reported h hkind hmessage hoperation

end Fault

theorem decode_of_text (h : String.fromUTF8? content = some text) :
    decode content = (Json.read text).mapError .notJson >>= fun d =>
      (Snapshot.ofDocument d).mapError .notSnapshot := by
  unfold decode
  rw [h]
  rfl

/-- The reading breaks off exactly where it ends in a fault that is not reported. -/
theorem breaksOff_iff (id : String) : BreaksOff content
    ↔ ∃ fault, decode content = .error fault ∧ (Fault.unreadable id fault).report? = none := by
  constructor
  · rintro (@⟨text, container, htext, hread⟩ | ⟨htext, hread, hd⟩)
    · refine ⟨.notJson (.tooDeep container), ?_, rfl⟩
      rw [decode_of_text htext, hread]
      rfl
    · refine ⟨.notSnapshot .notMap, ?_, rfl⟩
      rw [decode_of_text htext, hread]
      exact mapError_eq_error_iff.mpr ⟨.notMap, Snapshot.ofDocument_eq_notMap_iff.mpr hd, rfl⟩
  · rintro ⟨fault, hdecode, hnone⟩
    cases htext : String.fromUTF8? content with
    | none =>
      -- what is no text is reported
      unfold decode at hdecode
      rw [htext] at hdecode
      obtain rfl : ContentFault.notText = fault := Except.error.inj hdecode
      exact nomatch hnone
    | some text =>
      have hfault := Fault.report?_unreadable_eq_none_iff.mp hnone
      rw [decode_of_text htext] at hdecode
      cases hread : Json.read text with
      | error e =>
        rw [hread] at hdecode
        obtain rfl := Except.error.inj hdecode
        rcases hfault with ⟨container, heq⟩ | heq <;> cases heq
        exact .tooDeep htext hread
      | ok d =>
        rw [hread] at hdecode
        obtain ⟨e, hdoc, rfl⟩ := mapError_eq_error_iff.mp hdecode
        rcases hfault with ⟨container, heq⟩ | heq <;> cases heq
        exact .notMap htext hread (Snapshot.ofDocument_eq_notMap_iff.mp hdoc)

/-- A written document breaks off the reading exactly if it is no map. -/
theorem breaksOff_write_iff (h : Json.Readable Json.maxDepth d) (hw : Json.isWritable d = true) :
    BreaksOff (Json.write d).toUTF8 ↔ ∀ entries, d ≠ .map entries := by
  have htext := fromUTF8?_toUTF8 (Json.write d)
  constructor
  · rintro (⟨htext', hread⟩ | ⟨htext', hread, hd⟩)
    all_goals
      obtain rfl := Option.some.inj (htext.symm.trans htext')
      rw [Json.read_write h hw] at hread
      cases hread
    exact hd
  · exact .notMap htext (Json.read_write h hw)

/-- Whether the reading of a blob breaks off. -/
def BreaksOffAt (a : Archive) (id : String) : Prop :=
  ∃ content, a.blobs.get? id = some content ∧ BreaksOff content

theorem load_missing (h : a.blobs.get? id = none) : a.load id = .error (.missing id) := by
  unfold load
  rw [h]

theorem load_blob (h : a.blobs.get? id = some content) :
    a.load id = (decode content).mapError (.unreadable id) := by
  unfold load
  rw [h]

/-- The loading of a blob ends unreported exactly where its reading breaks off. -/
theorem breaksOffAt_iff :
    a.BreaksOffAt id ↔ ∃ f, a.load id = .error f ∧ f.report? = none := by
  cases hblob : a.blobs.get? id with
  | none =>
    constructor
    · rintro ⟨content, hcontent, -⟩
      exact nomatch hblob.symm.trans hcontent
    · rintro ⟨f, hf, hnone⟩
      obtain rfl := Except.error.inj ((load_missing hblob).symm.trans hf)
      exact nomatch hnone
  | some content =>
    constructor
    · rintro ⟨content', hcontent, hbreak⟩
      obtain rfl := Option.some.inj (hblob.symm.trans hcontent)
      obtain ⟨fault, hdecode, hnone⟩ := (breaksOff_iff id).mp hbreak
      exact ⟨_, (load_blob hblob).trans (mapError_eq_error_iff.mpr ⟨_, hdecode, rfl⟩), hnone⟩
    · rintro ⟨f, hf, hnone⟩
      obtain ⟨fault, hdecode, rfl⟩ := mapError_eq_error_iff.mp ((load_blob hblob).symm.trans hf)
      exact ⟨content, hblob, (breaksOff_iff id).mpr ⟨fault, hdecode, hnone⟩⟩

theorem told_iff : Told (a.load id) ↔ ¬ a.BreaksOffAt id := by
  rw [breaksOffAt_iff]
  constructor
  · rintro htold ⟨f, hf, hnone⟩
    rw [hf] at htold
    cases htold with
    | reported hreport => exact nomatch hnone.symm.trans hreport
  · intro h
    cases hload : a.load id with
    | ok g => exact .loaded g
    | error f =>
      cases hreport : f.report? with
      | none => exact absurd ⟨f, hload, hreport⟩ h
      | some r => exact Fault.told_of_report? hreport

end Archive

/-! ## Restorations that fail -/

/-- What is told about a restoration that failed. -/
def RestoreFault.report? : RestoreFault → Option ErrorReport
  | archive fault => fault.report?
  | graph error => some error.report

namespace Store

/-- A check of nodes only finds ids that are in use. -/
theorem admitNodes_eq_error {taken : String → Bool} {seen : List String} {ns : List Node}
    {e : GraphError} (h : admitNodes taken seen ns = .error e) : ∃ id, e = .idInUse id := by
  induction ns generalizing seen with
  | nil => exact nomatch h
  | cons n ns ih =>
    unfold admitNodes at h
    split at h
    · exact ⟨_, (Except.error.inj h).symm⟩
    · exact ih h

/-- What a check of relationships finds is told as a constraint or as a reference. -/
theorem admitRelationships_eq_error {loops : Bool} {taken known : String → Bool}
    {seen : List String} {rs : List Relationship} {e : GraphError}
    (h : admitRelationships loops taken known seen rs = .error e) :
    e.report.kind = .constraint ∨ e.report.kind = .reference := by
  induction rs generalizing seen with
  | nil => exact nomatch h
  | cons r rs ih =>
    obtain hr | ⟨_, -, hrs⟩ := bind_eq_error_iff.mp h
    · unfold admitRelationship at hr
      split_ifs at hr <;> cases hr
      · exact Or.inl rfl
      · exact Or.inr rfl
      · exact Or.inr rfl
      · exact Or.inl rfl
    · exact ih hrs

theorem checkSnapshot_eq_error {s : Store} {g : Snapshot} {replace : Bool} {e : GraphError}
    (h : s.checkSnapshot g replace = .error e) :
    e.report.kind = .constraint ∨ e.report.kind = .reference := by
  obtain hnodes | ⟨_, -, hrels⟩ := bind_eq_error_iff.mp h
  · obtain ⟨id, rfl⟩ := admitNodes_eq_error hnodes
    exact Or.inl rfl
  · exact admitRelationships_eq_error hrels

theorem restore_of_fault {a : Archive} {blob : String} {f : Archive.Fault}
    (h : a.load blob = .error f) (s : Store) : s.restore a blob = (.error (.archive f), s) := by
  unfold restore
  rw [h]

theorem restore_of_check {a : Archive} {blob : String} {g : Snapshot} (hload : a.load blob = .ok g)
    {s : Store} {e : GraphError} (hcheck : s.checkSnapshot g true = .error e) :
    s.restore a blob = (.error (.graph e), s) := by
  rw [restore_of_load hload]
  unfold replaceWith
  rw [hcheck]
  rfl

end Store

namespace Archive

/--
**Only what breaks off the reading is not told of.** Loading gives a snapshot or a report of the
archive, for bytes, texts and documents of all shapes, unless the document is no map or is nested
too deeply; an id without a blob is reported as well. A restoration that fails leaves the store as
it was. It goes unreported where the loading of its blob does, and else it is reported as a fault of
the archive or, once there is a snapshot, as what the check of the snapshot has found.
-/
theorem told_load_iff (a : Archive) (id : String) :
    (Told (a.load id) ↔ ¬ a.BreaksOffAt id)
    ∧ (id ∉ a.blobs.keys → a.load id = .error (.missing id) ∧ Told (a.load id))
    ∧ ∀ s : Store,
      ((∃ f, (s.restore a id).1 = .error f ∧ f.report? = none) ↔ a.BreaksOffAt id)
      ∧ ∀ f, (s.restore a id).1 = .error f → (s.restore a id).2 = s
        ∧ ∀ r, f.report? = some r →
          (∃ fault, a.load id = .error fault ∧ r.kind = .storage)
          ∨ ∃ g, a.load id = .ok g ∧ (r.kind = .constraint ∨ r.kind = .reference) := by
  have habsent : id ∉ a.blobs.keys → a.load id = .error (.missing id) := by
    intro hid
    refine load_missing ?_
    by_contra hsome
    obtain ⟨content, hcontent⟩ := Option.ne_none_iff_exists'.mp hsome
    exact hid (OrderedMap.mem_keys.mpr ⟨content, OrderedMap.get?_eq_some_iff.mp hcontent⟩)
  refine ⟨told_iff, fun hid => ⟨habsent hid, ?_⟩, fun s => ⟨⟨?_, ?_⟩, ?_⟩⟩
  · rw [habsent hid]
    exact Fault.told_of_report? rfl
  · rintro ⟨f, hf, hnone⟩
    obtain ⟨fault, hload, rfl⟩ | ⟨g, e, -, -, rfl⟩ := Store.restore_refused hf
    · exact breaksOffAt_iff.mpr ⟨fault, hload, hnone⟩
    · -- what the check finds is always reported
      exact nomatch hnone
  · intro hbreak
    obtain ⟨fault, hload, hnone⟩ := breaksOffAt_iff.mp hbreak
    exact ⟨.archive fault, congrArg Prod.fst (Store.restore_of_fault hload s), hnone⟩
  · intro f hf
    obtain ⟨fault, hload, rfl⟩ | ⟨g, e, hload, hcheck, rfl⟩ := Store.restore_refused hf
    · refine ⟨congrArg Prod.snd (Store.restore_of_fault hload s), fun r hr => ?_⟩
      exact Or.inl ⟨fault, hload, (Fault.report?_eq_some hr).1⟩
    · refine ⟨congrArg Prod.snd (Store.restore_of_check hload hcheck), fun r hr => ?_⟩
      obtain rfl := Option.some.inj hr
      exact Or.inr ⟨g, hload, Store.checkSnapshot_eq_error hcheck⟩

/-- A blob that holds an empty list breaks off the reading, and nothing is told. -/
theorem not_told_load_list :
    let a := Archive.empty.put "b" "[]".toUTF8
    (∃ f, a.load "b" = .error f ∧ f.report? = none) ∧ ¬ Told (a.load "b") := by
  have hbreak : BreaksOff (Json.write (.list [])).toUTF8 :=
    (breaksOff_write_iff (.list fun _ h => absurd h List.not_mem_nil) rfl).mpr nofun
  have hat : (Archive.empty.put "b" "[]".toUTF8).BreaksOffAt "b" := ⟨_, rfl, hbreak⟩
  exact ⟨breaksOffAt_iff.mp hat, fun htold => told_iff.mp htold hat⟩

end Archive

end PropertyGraph
