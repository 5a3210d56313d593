import DpostV2.Watchdog.Ledger

/-!
# What holds of every ledger

In every run of the program, with restarts at any point and with any failures of the database and
of the disk: only files that wait for their upload need force (`force_waits`); a file that the
ledger calls uploaded has been uploaded since it was last added, or the ledger went back behind
that (`uploaded_since_added`); a file that was uploaded before is uploaded again with force, or
the ledger had lost it (`reuploaded_with_force`).
-/

namespace DpostV2.Watchdog

open LocalRecord

theorem get?_change (records : Records) (id key : String) (f : LocalRecord → LocalRecord) :
    (records.change id f).get? key =
      (records.get? key).map fun record => if key = id then f record else record := by
  simp [Records.change]

/-- What an upload is: of a file that waits for it, with force where it needs force. -/
def RecordAct.Allowed (found : Option LocalRecord) : RecordAct → Prop
  | .uploaded filePath force => ∃ record, found = some record ∧
    record.filesUploaded.get? filePath = some false ∧
      (force = true ↔ filePath ∈ record.filesRequireForce)
  | _ => True

def LedgerAct.Allowed [Interpreter] (records : Records) : LedgerAct → Prop
  | .created record =>
    record.Named ∧ record.filesUploaded = .empty ∧ record.filesRequireForce = ∅
  | .changed id a => a.Allowed (records.get? id)

section
variable [Interpreter]

-- ---------------------------------------------------------------------------
-- Programs do what their history says
-- ---------------------------------------------------------------------------

def Ledger.Leads (l l' : Ledger) : Prop :=
  ∃ h, l'.history = l.history ++ h ∧ l'.store = l.store.after ledgerLaws h ∧
    l.store.Allows ledgerLaws LedgerAct.Allowed h

theorem Ledger.Leads.refl (l : Ledger) : l.Leads l := ⟨[], by simp, rfl, trivial⟩

theorem Ledger.Leads.trans {l l' l'' : Ledger} (h : l.Leads l') (h' : l'.Leads l'') :
    l.Leads l'' := by
  obtain ⟨es, hhistory, hstore, hallows⟩ := h
  obtain ⟨es', hhistory', hstore', hallows'⟩ := h'
  refine ⟨es ++ es', ?_, ?_, ?_⟩
  · rw [hhistory', hhistory, List.append_assoc]
  · rw [hstore', hstore, Store.after_append]
  · rw [hstore] at hallows'
    exact Store.allows_append.mpr ⟨hallows, hallows'⟩

def Keeps {α : Type} (m : LedgerM α) (l : Ledger) : Prop := l.Leads (m.run l).2

namespace Keeps

variable {α β : Type} {l : Ledger}

theorem pure (a : α) : Keeps (pure a) l := Ledger.Leads.refl l

theorem raise (e : Exn) : Keeps (Eff.raise e : LedgerM α) l := Ledger.Leads.refl l

theorem lift (x : Except Exn α) : Keeps (Eff.lift x) l := Ledger.Leads.refl l

theorem get : Keeps Eff.get l := Ledger.Leads.refl l

theorem nextFault : Keeps nextFault l := ⟨[], by simp [Watchdog.nextFault, Eff.run], rfl, trivial⟩

theorem emit {e : StoreEvent LedgerAct} (h : ∀ a, e = .act a → a.Allowed l.store.memory) :
    Keeps (emit e) l := ⟨[e], rfl, rfl, h, trivial⟩

theorem created {record : LocalRecord}
    (h : (LedgerAct.created record).Allowed l.store.memory) :
    Keeps (Watchdog.emit (.act (.created record))) l := emit fun _ heq => by cases heq; exact h

theorem change {id : String} {a : RecordAct} (h : a.Allowed (l.record? id)) :
    Keeps (change id a) l :=
  emit fun _ heq => by cases heq; exact h

theorem bind {m : LedgerM α} {f : α → LedgerM β} (hm : Keeps m l)
    (hf : ∀ a l', m.run l = (.ok a, l') → Keeps (f a) l') : Keeps (m >>= f) l := by
  unfold Keeps at hm ⊢
  rw [Eff.run_bind]
  rcases hrun : m.run l with ⟨_ | a, l'⟩
  · simpa [hrun] using hm
  · rw [hrun] at hm
    exact hm.trans (hf a l' hrun)

theorem attempt {m : LedgerM α} (hm : Keeps m l) : Keeps m.attempt l := hm

theorem forM {xs : List α} {f : α → LedgerM Unit} (hf : ∀ a ∈ xs, ∀ l, Keeps (f a) l) :
    Keeps (xs.forM f) l := by
  induction xs generalizing l with
  | nil => exact pure ()
  | cons a xs ih =>
    exact bind (hf a (by simp) l) fun _ l' _ => ih fun b hb => hf b (by simp [hb])

end Keeps

theorem saveRecords_keeps (l : Ledger) : Keeps saveRecords l := by
  refine .bind .nextFault fun outcome l' _ => ?_
  cases outcome with
  | written => exact .emit nofun
  | untouched => exact .pure ()
  | torn => exact .emit nofun

theorem loadRecords_keeps (readable : Bool) (l : Ledger) : Keeps (loadRecords readable) l := by
  cases readable <;> exact .emit nofun

theorem newRecord_allowed (filenamePrefix devKadiRecordId date : String) (records : Records) :
    (LedgerAct.created (newRecord filenamePrefix devKadiRecordId date)).Allowed records :=
  ⟨postInit_named _, (postInit_files _).1, (postInit_files _).2⟩

theorem addItemToRecord_keeps (found : List String) (id : String) (l : Ledger) :
    Keeps (addItemToRecord found id) l :=
  .bind .get fun _ _ _ => .bind (.forM fun _ _ _ => .change trivial) fun _ _ _ =>
    .bind .get fun _ _ _ => .bind (saveRecords_keeps _) fun _ _ _ => .pure _

variable (remote : Remote)

/-- The files that the loop is still to upload wait for it. -/
def Ledger.Waits (l : Ledger) (id : String) (files : List (String × Bool)) : Prop :=
  (files.map Prod.fst).Nodup ∧ ∀ filePath, (filePath, false) ∈ files →
    ∃ record, l.record? id = some record ∧ record.filesUploaded.get? filePath = some false

omit [Interpreter] in
theorem Ledger.waits_filesOf (l : Ledger) (id : String) : l.Waits id (l.filesOf id) := by
  unfold Ledger.Waits Ledger.filesOf
  cases hrecord : l.record? id with
  | none => simp
  | some record =>
    exact ⟨record.filesUploaded.distinct,
      fun _ hfile => ⟨record, rfl, Assoc.get?_eq_some.mpr hfile⟩⟩

omit [Interpreter] in
theorem Ledger.Waits.tail {l : Ledger} {id : String} {file : String × Bool}
    {files : List (String × Bool)} (h : l.Waits id (file :: files)) : l.Waits id files :=
  ⟨(List.nodup_cons.mp h.1).2, fun _ hfile => h.2 _ (List.mem_cons_of_mem _ hfile)⟩

/-- An upload takes no other file from the queue. -/
theorem Ledger.Waits.uploaded {l l' : Ledger} {id filePath : String} {force : Bool}
    {files : List (String × Bool)} (h : l.Waits id ((filePath, false) :: files))
    (hrun : (change id (.uploaded filePath force)).run l = (.ok (), l')) : l'.Waits id files := by
  cases hrun
  obtain ⟨hnodup, hwaits⟩ := h
  obtain ⟨hnew, hnodup⟩ := List.nodup_cons.mp hnodup
  refine ⟨hnodup, fun other hother => ?_⟩
  obtain ⟨record, hrecord, hfile⟩ := hwaits other (List.mem_cons_of_mem _ hother)
  have hne : other ≠ filePath := fun heq => hnew (heq ▸ List.mem_map.mpr ⟨_, hother, rfl⟩)
  refine ⟨record.fileUploaded filePath force, ?_, ?_⟩
  · show (Records.change _ _ _).get? id = _
    rw [get?_change]
    simp only [Ledger.record?] at hrecord
    simp [hrecord, RecordAct.apply]
  · simpa [fileUploaded, Assoc.get?_set_of_ne hne] using hfile

theorem uploadFiles_keeps {id : String} {files : List (String × Bool)} {l : Ledger}
    (h : l.Waits id files) : Keeps (uploadFiles remote id files) l := by
  induction files generalizing l with
  | nil => exact .pure _
  | cons file rest ih =>
    obtain ⟨filePath, uploaded⟩ := file
    cases uploaded with
    | true => exact ih h.tail
    | false =>
      refine .bind .get ?_
      rintro _ _ ⟨⟩
      cases remote.uploadFile id filePath with
      | uploaded =>
        refine .bind (.change ?_) fun _ l' hrun => ih (h.uploaded hrun)
        obtain ⟨record, hrecord, hfile⟩ := h.2 filePath (by simp)
        exact ⟨record, hrecord, hfile, by simp [Ledger.requiresForce, hrecord]⟩
      | fileNotFound => exact .bind (ih h.tail) fun _ _ _ => .pure _
      | failed e => exact .raise e

theorem syncRecordToDatabase_keeps (id : String) (l : Ledger) :
    Keeps (syncRecordToDatabase remote id) l := by
  refine .bind (.lift _) ?_
  rintro _ l' -
  refine .bind (.bind .get ?_) fun _ _ _ => .bind (.change trivial) fun _ _ _ => .pure _
  rintro _ _ ⟨⟩
  exact .bind (uploadFiles_keeps remote (l'.waits_filesOf id)) fun _ _ _ =>
    .bind (.forM fun _ _ _ => .change trivial) fun _ _ _ => .bind .get fun _ _ _ => .pure _

theorem syncEligible_keeps (id : String) (l : Ledger) : Keeps (syncEligible remote id) l := by
  refine .bind .get ?_
  rintro _ _ ⟨⟩
  cases l.record? id with
  | none => exact .pure ()
  | some record =>
    show Keeps (if record.institute ≠ "ipat" then _ else _) l
    split
    · exact .pure ()
    · split
      · exact .pure ()
      · exact .bind (syncRecordToDatabase_keeps remote id l) fun _ _ _ => saveRecords_keeps _

theorem syncPending_keeps (l : Ledger) : Keeps (syncPending remote) l := by
  refine .bind .get ?_
  rintro _ _ ⟨⟩
  show Keeps (if allRecordsUploaded l then _ else _) l
  split
  · exact .pure ()
  · exact .bind .get fun _ _ _ => .forM fun _ _ _ => syncEligible_keeps remote _ _

theorem ingest_keeps (item : Ingestion) (l : Ledger) : Keeps (ingest remote item) l := by
  refine .bind ?_ fun id _ _ => .bind (.change trivial) fun _ _ _ => .bind (.lift _) fun _ _ _ =>
    .bind (.change trivial) fun _ _ _ => .bind (addItemToRecord_keeps _ _ _) fun _ _ _ =>
    .bind (.forM fun path _ l => ?_) fun _ l' _ => ?_
  · unfold getOrCreateRecord
    cases item.record with
    | some id => exact .pure id
    | none => exact .bind (.created (newRecord_allowed ..)) fun _ _ _ => .pure _
  · exact .bind (addItemToRecord_keeps _ _ _) fun _ _ _ => .forM fun _ _ _ => .change trivial
  · cases item.immediateSync with
    | true => exact .bind (.attempt (syncPending_keeps remote l')) fun _ _ _ => .pure ()
    | false => exact .pure ()

theorem LedgerStep.keeps (step : LedgerStep) (l : Ledger) : Keeps step.run l := by
  cases step with
  | ingest item remote => exact ingest_keeps remote item l
  | sync remote => exact syncPending_keeps remote l
  | save => exact saveRecords_keeps l
  | unsync id filePath => exact .change trivial
  | unsyncRecord id => exact .change trivial
  | reload readable => exact loadRecords_keeps readable l
  | start readable remote =>
    exact .bind (loadRecords_keeps readable l) fun _ _ _ => syncPending_keeps remote _

theorem Ledger.steps_leads (l : Ledger) (steps : List LedgerStep) : l.Leads (l.steps steps) := by
  induction steps generalizing l with
  | nil => exact .refl l
  | cons step steps ih => exact (step.keeps l).trans (ih _)

-- ---------------------------------------------------------------------------
-- The records are sound
-- ---------------------------------------------------------------------------

def Records.Sound (records : Records) : Prop :=
  ∀ id record, records.get? id = some record → record.Named ∧ record.ForceWaits

namespace Records.Sound

variable {records : Records}

theorem empty : Records.Sound .empty := nofun

theorem change (h : records.Sound) {id : String} {f : LocalRecord → LocalRecord}
    (hf : ∀ record, records.get? id = some record → record.Named → record.ForceWaits →
      (f record).Named ∧ (f record).ForceWaits) : (records.change id f).Sound := by
  intro key record hget
  rw [get?_change, Option.map_eq_some_iff] at hget
  obtain ⟨before, hbefore, rfl⟩ := hget
  obtain ⟨hnamed, hwaits⟩ := h key before hbefore
  by_cases hkey : key = id
  · subst hkey
    simpa using hf before hbefore hnamed hwaits
  · simpa [hkey] using And.intro hnamed hwaits

theorem reloaded (h : records.Sound) : records.reloaded.Sound := by
  intro key record hget
  simp only [Records.reloaded, Assoc.get?_mapValues, Option.map_eq_some_iff] at hget
  obtain ⟨before, hbefore, rfl⟩ := hget
  obtain ⟨hnamed, hwaits⟩ := h key before hbefore
  refine ⟨postInit_named _, ?_⟩
  rw [fromDict_toDict hnamed]
  exact hwaits

theorem apply (h : records.Sound) {a : LedgerAct} (hallowed : a.Allowed records) :
    (a.apply records).Sound := by
  cases a with
  | created new =>
    obtain ⟨hnamed, -, hforce⟩ := hallowed
    intro key record hget
    simp only [LedgerAct.apply, Assoc.get?_set] at hget
    split at hget
    · cases hget
      exact ⟨hnamed, fun filePath hmem => by simp [hforce] at hmem⟩
    · exact h key record hget
  | changed id a =>
    refine h.change fun record hget hnamed hwaits => ?_
    cases a with
    | defaults description tags => exact ⟨hnamed.withDefaults _ _ _, hwaits⟩
    | typed datatype => exact ⟨hnamed.withDefaults _ _ _, hwaits⟩
    | added filePath => exact ⟨hnamed.registerFile filePath, hwaits.registerFile⟩
    | unsynced filePath => exact ⟨hnamed.markFileAsUnsynced filePath, hwaits.markFileAsUnsynced⟩
    | recordUnsynced => exact ⟨hnamed.withFiles _ _ _, hwaits.markRecordUnsynced⟩
    | uploaded filePath force =>
      obtain ⟨record', hget', -, hforced⟩ := hallowed
      cases hget.symm.trans hget'
      exact ⟨hnamed.withFiles _ _ _, hwaits.fileUploaded hforced⟩
    | dropped filePath => exact ⟨hnamed.withFiles _ _ _, hwaits.forgetFile⟩
    | synced => exact ⟨hnamed.withFiles _ _ _, hwaits⟩

end Records.Sound

theorem Ledger.steps_sound (faults : List SaveOutcome) (steps : List LedgerStep) :
    ((Ledger.new faults).steps steps).store.memory.Sound ∧
      ∀ copy, ((Ledger.new faults).steps steps).store.copy = some copy → copy.Sound := by
  obtain ⟨h, -, hstore, hallows⟩ := (Ledger.new faults).steps_leads steps
  rw [hstore]
  exact Store.after_invariant Records.Sound.empty (fun _ hsound => hsound.reloaded)
    (fun _ _ hsound => hsound.apply) Records.Sound.empty (by rintro copy ⟨⟩) hallows

/-- In every record that is held or stored only files that wait need force, and what is written
is read back but for the defaults. -/
theorem ledger_sound (faults : List SaveOutcome) (steps : List LedgerStep) :
    let l := (Ledger.new faults).steps steps
    l.store.memory.Sound ∧ (∀ copy, l.store.copy = some copy → copy.Sound) ∧
      l.store.memory.reloaded = l.store.memory.mapValues fun _ record => record.persisted := by
  obtain ⟨hmemory, hcopy⟩ := Ledger.steps_sound faults steps
  refine ⟨hmemory, hcopy, ?_⟩
  rw [Records.reloaded]
  exact Assoc.mapValues_congr fun id record hget => fromDict_toDict (hmemory id record hget).1

-- ---------------------------------------------------------------------------
-- What the ledger says of a file
-- ---------------------------------------------------------------------------

omit [Interpreter] in
theorem get?_apply (records : Records) (a : LedgerAct) (id : String) :
    (a.apply records).get? id = match a with
      | .created record => if id = record.identifier then some record else records.get? id
      | .changed key a =>
        (records.get? id).map fun record => if id = key then a.apply record else record := by
  cases a with
  | created record => exact Assoc.get?_set
  | changed key a => exact get?_change ..

theorem get?_reloaded (records : Records) (id : String) :
    records.reloaded.get? id = (records.get? id).map fun record => fromDict record.toDict := by
  simp [Records.reloaded]

/-- Under the identifier there is nothing that calls the file uploaded. -/
def Records.Unclaimed (id filePath : String) (records : Records) : Prop :=
  ∀ record, records.get? id = some record → ¬ record.ClaimsUploaded filePath

/-- The file is called uploaded, or it waits for an upload with force. -/
def Records.Guarded (id filePath : String) (records : Records) : Prop :=
  ∃ record, records.get? id = some record ∧ record.Guards filePath

theorem Records.Unclaimed.reloaded {id filePath : String} {records : Records}
    (h : records.Unclaimed id filePath) : records.reloaded.Unclaimed id filePath := by
  intro record hget
  rw [get?_reloaded, Option.map_eq_some_iff] at hget
  obtain ⟨before, hbefore, rfl⟩ := hget
  exact (claimsUploaded_fromDict before filePath).not.mpr (h before hbefore)

theorem Records.Unclaimed.apply {id filePath : String} {records : Records} {a : LedgerAct}
    (h : records.Unclaimed id filePath) (hallowed : a.Allowed records)
    (hnot : ¬ ∃ force, a = .changed id (.uploaded filePath force)) :
    (a.apply records).Unclaimed id filePath := by
  intro record hget
  rw [get?_apply] at hget
  cases a with
  | created new =>
    simp only at hget
    split at hget
    · cases hget
      obtain ⟨-, hfiles, -⟩ := hallowed
      simp [ClaimsUploaded, hfiles]
    · exact h record hget
  | changed key a =>
    simp only [Option.map_eq_some_iff] at hget
    obtain ⟨before, hbefore, rfl⟩ := hget
    split
    · rename_i hkey
      subst hkey
      exact a.not_claimed (h before hbefore) fun force heq => hnot ⟨force, by rw [heq]⟩
    · exact h before hbefore

theorem Records.Guarded.reloaded {id filePath : String} {records : Records}
    (h : records.Guarded id filePath) : records.reloaded.Guarded id filePath := by
  obtain ⟨record, hget, hguards⟩ := h
  exact ⟨_, by rw [get?_reloaded, hget, Option.map_some],
    (guards_fromDict record filePath).mpr hguards⟩

omit [Interpreter] in
theorem Records.Guarded.apply {id filePath : String} {records : Records} {a : LedgerAct}
    (h : records.Guarded id filePath)
    (hnot : ¬ (a = .changed id (.dropped filePath) ∨ ∃ record, a = .created record ∧
      record.identifier = id)) :
    (a.apply records).Guarded id filePath := by
  obtain ⟨hdropped, hcreated⟩ := not_or.mp hnot
  obtain ⟨record, hget, hguards⟩ := h
  unfold Records.Guarded
  simp only [get?_apply]
  cases a with
  | created new =>
    have hne : id ≠ new.identifier := fun heq => hcreated ⟨new, rfl, heq.symm⟩
    exact ⟨record, by simp [hne, hget], hguards⟩
  | changed key a =>
    refine ⟨if id = key then a.apply record else record, by simp [hget], ?_⟩
    split
    · rename_i hkey
      subst hkey
      exact a.guarded hguards fun heq => hdropped (by rw [heq])
    · exact hguards

/-- A file that the ledger calls uploaded has been uploaded since it was last added, unless the
ledger has gone back behind that. -/
theorem uploaded_since_added (faults : List SaveOutcome) (steps : List LedgerStep)
    {before after : List (StoreEvent LedgerAct)} {id filePath : String} {record : LocalRecord}
    (hadded : ((Ledger.new faults).steps steps).history =
      before ++ .act (.changed id (.added filePath)) :: after)
    (hrecord : ((Ledger.new faults).steps steps).record? id = some record)
    (huploaded : record.filesUploaded.get? filePath = some true) :
    Undone (fun a => ∃ force, a = .changed id (.uploaded filePath force)) after := by
  obtain ⟨h, hhistory, hstore, hallows⟩ := (Ledger.new faults).steps_leads steps
  obtain rfl : h = _ := by simpa [Ledger.new] using hhistory.symm.trans hadded
  obtain ⟨-, hallows⟩ := Store.allows_append.mp hallows
  have hunclaimed : Records.Unclaimed id filePath
      (((Ledger.new faults).store.after ledgerLaws before).next ledgerLaws
        (.act (.changed id (.added filePath)))).memory := by
    intro record hget
    simp only [Store.next, ledgerLaws, get?_apply, if_true, Option.map_eq_some_iff] at hget
    obtain ⟨earlier, -, rfl⟩ := hget
    simp [RecordAct.apply, ClaimsUploaded, get?_registerFile]
  have hstep : ∀ (records : Records) (a : LedgerAct), records.Unclaimed id filePath →
      a.Allowed records → (¬ ∃ force, a = .changed id (.uploaded filePath force)) →
      (a.apply records).Unclaimed id filePath := fun _ _ h hallowed hnot => h.apply hallowed hnot
  rcases holds_or_undone hunclaimed (fun _ h => h.reloaded) hstep hallows.2 with hmemory | hundone
  · rw [Store.after_append, Store.after_cons] at hstore
    rw [← hstore] at hmemory
    exact absurd huploaded (hmemory record hrecord)
  · exact hundone

/-- A file is uploaded a second time with force, unless the ledger has dropped the file, replaced
the record or gone back behind the first time. -/
theorem reuploaded_with_force (faults : List SaveOutcome) (steps : List LedgerStep)
    {before between after : List (StoreEvent LedgerAct)} {id filePath : String} {force : Bool}
    (huploads : ((Ledger.new faults).steps steps).history =
      before ++ .act (.changed id (.uploaded filePath force)) :: (between ++
        .act (.changed id (.uploaded filePath false)) :: after)) :
    Undone (fun a => a = .changed id (.dropped filePath) ∨
      ∃ record, a = .created record ∧ record.identifier = id) between := by
  obtain ⟨h, hhistory, -, hallows⟩ := (Ledger.new faults).steps_leads steps
  obtain rfl : h = _ := by simpa [Ledger.new] using hhistory.symm.trans huploads
  obtain ⟨hbefore, hallows⟩ := Store.allows_append.mp hallows
  obtain ⟨hfirst, hallows⟩ := hallows
  have hstep : ∀ (records : Records) (a : LedgerAct), records.Guarded id filePath →
      a.Allowed records → ¬ (a = .changed id (.dropped filePath) ∨
        ∃ record, a = .created record ∧ record.identifier = id) →
      (a.apply records).Guarded id filePath := fun _ _ h _ hnot => h.apply hnot
  obtain ⟨record, hget, -, -⟩ := hfirst _ rfl
  have hguarded : Records.Guarded id filePath
      (((Ledger.new faults).store.after ledgerLaws before).next ledgerLaws
        (.act (.changed id (.uploaded filePath force)))).memory := by
    refine ⟨record.fileUploaded filePath force, ?_, .inl Assoc.get?_set_self⟩
    show (LedgerAct.apply _ _).get? id = _
    rw [get?_apply]
    simp [hget, RecordAct.apply]
  obtain ⟨hbetween, hsecond⟩ := Store.allows_append.mp hallows
  rcases holds_or_undone hguarded (fun _ h => h.reloaded) hstep hbetween with hmemory | hundone
  · -- what is guarded is not uploaded without force
    obtain ⟨record', hget', hguards⟩ := hmemory
    obtain ⟨record'', hget'', hwaits, hforce⟩ := hsecond.1 _ rfl
    cases hget'.symm.trans hget''
    rcases hguards with hclaims | ⟨-, hmem⟩
    · cases hclaims.symm.trans hwaits
    · exact absurd (hforce.mpr hmem) Bool.false_ne_true
  · exact hundone

end

section
attribute [local instance] Interpreter.ascii

def uploadsAll : Remote := ⟨fun _ => .ok (), fun _ _ => .uploaded⟩

def oneFile : Ingestion where
  record := none
  filenamePrefix := "mus-ipat-x"
  devKadiRecordId := "psa"
  date := "20260304"
  defaultRecordDescription := "particle sizes"
  recordTags := []
  processing := .ok "psa"
  finalFiles := ["/data/x-01.csv"]
  forcePaths := []
  immediateSync := true

/-- The ledger is not written after the upload, and then the program is started again. -/
def forgottenUpload : Ledger :=
  (Ledger.new [.written, .untouched]).steps [.ingest oneFile uploadsAll, .start true uploadsAll]

theorem forgottenUpload_history : forgottenUpload.history =
    [.act (.created (newRecord "mus-ipat-x" "psa" "20260304")),
      .act (.changed "psa-mus-ipat-x" (.defaults "particle sizes" [])),
      .act (.changed "psa-mus-ipat-x" (.typed "psa")),
      .act (.changed "psa-mus-ipat-x" (.added "/data/x-01.csv")), .saved,
      .act (.changed "psa-mus-ipat-x" (.uploaded "/data/x-01.csv" false)),
      .act (.changed "psa-mus-ipat-x" .synced), .restarted,
      .act (.changed "psa-mus-ipat-x" (.uploaded "/data/x-01.csv" false)),
      .act (.changed "psa-mus-ipat-x" .synced), .saved] := by
  decide +kernel

/-- The file is uploaded once more without force: the restart went back behind the first time. -/
theorem reuploaded_with_force_forgotten :
    Undone (fun a : LedgerAct => a = .changed "psa-mus-ipat-x" (.dropped "/data/x-01.csv") ∨
        ∃ record, a = .created record ∧ record.identifier = "psa-mus-ipat-x")
      [.act (.changed "psa-mus-ipat-x" .synced), .restarted] := by
  have hhistory : forgottenUpload.history =
      forgottenUpload.history.take 5 ++
        .act (.changed "psa-mus-ipat-x" (.uploaded "/data/x-01.csv" false)) ::
          ([.act (.changed "psa-mus-ipat-x" .synced), .restarted] ++
            .act (.changed "psa-mus-ipat-x" (.uploaded "/data/x-01.csv" false)) ::
              forgottenUpload.history.drop 9) := by
    rw [forgottenUpload_history]
    rfl
  exact reuploaded_with_force [.written, .untouched]
    [.ingest oneFile uploadsAll, .start true uploadsAll] hhistory

theorem uploaded_since_added_once :
    Undone (fun a : LedgerAct => ∃ force,
        a = .changed "psa-mus-ipat-x" (.uploaded "/data/x-01.csv" force))
      (forgottenUpload.history.drop 4) := by
  have hhistory : forgottenUpload.history = forgottenUpload.history.take 3 ++
      .act (.changed "psa-mus-ipat-x" (.added "/data/x-01.csv")) ::
        forgottenUpload.history.drop 4 := by
    rw [forgottenUpload_history]
    rfl
  have hclaims : (forgottenUpload.record? "psa-mus-ipat-x").map
      (·.filesUploaded.get? "/data/x-01.csv") = some (some true) := by decide +kernel
  obtain ⟨record, hrecord, huploaded⟩ := Option.map_eq_some_iff.mp hclaims
  exact uploaded_since_added [.written, .untouched]
    [.ingest oneFile uploadsAll, .start true uploadsAll] hhistory hrecord huploaded

end

end DpostV2.Watchdog
