import DpostV2.Lib.Disk

/-!
# What a call may change

`Fs.Changes A`: everything that differs between two file systems is at a path, and has become,
as `A` allows. It is closed under sequences, and there is one lemma for each call of a disk that
writes.
-/

namespace DpostV2

namespace Fs

/-- `A q n`: what is at `q` may become `n`. -/
def Changes (A : FsPath → Option Node → Prop) (fs fs' : Fs) : Prop :=
  ∀ q, fs'.node q = fs.node q ∨ A q (fs'.node q)

section
variable {A B : FsPath → Option Node → Prop} {fs fs' fs'' : Fs} {p source target : FsPath}

theorem Changes.refl (A : FsPath → Option Node → Prop) (fs : Fs) : Changes A fs fs :=
  fun _ => .inl rfl

theorem Changes.trans (h : Changes A fs fs') (h' : Changes A fs' fs'') : Changes A fs fs'' := by
  intro q
  rcases h' q with heq | hallowed
  · rcases h q with heq' | hallowed'
    · exact .inl (heq.trans heq')
    · exact .inr (heq ▸ hallowed')
  · exact .inr hallowed

theorem Changes.mono (h : Changes A fs fs') (hAB : ∀ q n, A q n → B q n) : Changes B fs fs' :=
  fun q => (h q).imp_right (hAB q _)

/-- What no change reaches is as it was. -/
theorem Changes.kept (h : Changes A fs fs') (hA : ∀ n, ¬ A p n) : fs'.node p = fs.node p :=
  (h p).resolve_right (hA _)

theorem Extended.changes (h : Extended fs fs' p) :
    Changes (fun q n => n = some .dir ∧ q <+: p) fs fs' := by
  intro q
  cases hq : fs.node q with
  | some n => exact .inl (h.kept q n hq)
  | none =>
    cases hq' : fs'.node q with
    | none => exact .inl rfl
    | some n =>
      obtain ⟨rfl, hpre⟩ := h.added q n hq hq'
      exact .inr ⟨rfl, hpre⟩

theorem write_file (content : Bytes) (hne : p ≠ []) (hparent : fs.node p.dropLast = some .dir)
    (hdir : fs.node p ≠ some .dir) : ∃ fs', fs.write p content = .ok fs' ∧
      ∀ q, fs'.node q = if q = p then some (.file content) else fs.node q := by
  refine ⟨put p (.file content) hne hparent fun h => absurd h hdir, ?_, fun q => ?_⟩
  · rw [write, dif_neg hne, dif_pos hparent, dif_neg hdir]
  · simp only [put, Function.update_apply]

theorem write_changes {content : Bytes} (h : fs.write p content = .ok fs') :
    Changes (fun q n => q = p ∧ n = some (.file content)) fs fs' := by
  unfold write at h
  split at h
  · cases h
  · split at h
    · split at h
      · cases h
      · cases h
        intro q
        by_cases hq : q = p
        · exact .inr ⟨hq, by simp [hq]⟩
        · exact .inl (by simp [hq])
    · cases h

theorem remove_changes {hp : p ≠ []} {hempty : fs.children p = []} :
    Changes (fun q n => q = p ∧ n = none) fs (remove p hp hempty) := by
  intro q
  by_cases hq : q = p
  · exact .inr ⟨hq, by simp [hq]⟩
  · exact .inl (by simp [hq])

theorem unlink_file {content : Bytes} (h : fs.node p = some (.file content)) :
    ∃ fs', fs.unlink p = .ok fs' ∧ ∀ q, fs'.node q = if q = p then none else fs.node q := by
  have hne : p ≠ [] := by
    rintro rfl
    rw [fs.root] at h
    cases h
  refine ⟨remove p hne (children_file h), ?_, fun q => ?_⟩
  · unfold unlink
    split
    · rename_i h'
      rw [h'] at h
      cases h
    · rename_i h'
      rw [h'] at h
      cases h
    · rfl
  · simp only [remove, Function.update_apply]

theorem unlink_changes (h : fs.unlink p = .ok fs') :
    Changes (fun q n => q = p ∧ n = none) fs fs' := by
  unfold unlink at h
  split at h
  · cases h
  · cases h
  · cases h
    exact remove_changes

theorem rmdir_changes (h : fs.rmdir p = .ok fs') :
    Changes (fun q n => q = p ∧ n = none) fs fs' := by
  unfold rmdir at h
  split at h
  · cases h
  · cases h
  · split at h
    · cases h
    · split at h
      · cases h
        exact remove_changes
      · cases h

/-- A move takes things from at or below its source to at or below its target. -/
theorem Moved.changes (h : Moved fs fs' source target) :
    Changes (fun q n => target <+: q ∨ source <+: q ∧ n = none) fs fs' := by
  intro q
  by_cases ht : target <+: q
  · exact .inr (.inl ht)
  · by_cases hs : source <+: q
    · exact .inr (.inr ⟨hs, h.left q hs ht⟩)
    · exact .inl (h.kept q hs ht)

/-- A moved file stands at the target itself. -/
theorem Moved.changes_file (h : Moved fs fs' source target) {content : Bytes}
    (hfile : fs.node source = some (.file content)) :
    Changes (fun q n => q = target ∧ n = some (.file content) ∨ source <+: q ∧
      n = none) fs fs' := by
  intro q
  by_cases ht : target <+: q
  · obtain ⟨rest, rfl⟩ := ht
    by_cases hrest : rest = []
    · subst hrest
      rw [List.append_nil]
      exact .inr (.inl ⟨rfl, h.at_target.trans hfile⟩)
    · have hbelow : fs.node (source ++ rest) = none :=
        free_of_not_dir (by rw [hfile]; nofun) rest hrest
      rw [h.arrived, hbelow, h.free rest hrest]
      exact .inl rfl
  · by_cases hs : source <+: q
    · exact .inr (.inr ⟨hs, h.left q hs ht⟩)
    · exact .inl (h.kept q hs ht)

/-- What is moved is there. -/
theorem shutilMove_present {crossDevice : FsPath → FsPath → Bool} {r : FsPath × Fs}
    (h : fs.shutilMove crossDevice source target = .ok r) : fs.node source ≠ none := by
  intro hnone
  have hrename : ∀ t, fs.rename crossDevice source t = .error .notFound :=
    fun t => by simp [rename, hnone]
  have hcopy : ∀ t, ∃ e, fs.copyMove source t = .error e := by
    intro t
    unfold copyMove
    split
    · exact ⟨_, rfl⟩
    · split
      · exact ⟨_, rfl⟩
      · rw [hnone]
        exact ⟨_, rfl⟩
  choose e he using hcopy
  simp only [shutilMove, hrename, he] at h
  split at h
  · split at h
    · cases h
    · split at h <;> cases h
  · cases h

/-- Where no directory stands, a move goes to its target itself. -/
theorem shutilMove_real {crossDevice : FsPath → FsPath → Bool} {real : FsPath}
    (h : fs.shutilMove crossDevice source target = .ok (real, fs'))
    (hdir : fs.isDir target = false) : real = target := by
  unfold shutilMove at h
  simp only [hdir, Bool.false_eq_true, if_false] at h
  split at h
  · cases h
    rfl
  · cases hcopied : fs.copyMove source target with
    | error e =>
      rw [hcopied] at h
      cases h
    | ok copied =>
      rw [hcopied] at h
      cases h
      rfl

end

end Fs

-- ---------------------------------------------------------------------------
-- The calls of a disk
-- ---------------------------------------------------------------------------

section
variable {machine : Machine} {fs fs' : Fs} {path source target : PurePath}
    {A : FsPath → Option Node → Prop}

theorem apply_mkdirs_changes {a} (h : (DiskCall.mkdirs path).apply machine fs = .ok (a, fs')) :
    Fs.Changes (fun q n => n = some .dir ∧ q <+: machine.at path) fs fs' := by
  simp only [DiskCall.apply] at h
  cases hmade : fs.mkdirs (machine.at path) with
  | error e =>
    rw [hmade] at h
    cases h
  | ok made =>
    rw [hmade] at h
    cases h
    exact (Fs.mkdirs_extended hmade).1.changes

theorem apply_openZip_changes {a} (h : (DiskCall.openZip path).apply machine fs = .ok (a, fs')) :
    Fs.Changes (fun q n => q = machine.at path ∧ ∃ content, n = some (.file content)) fs fs' := by
  simp only [DiskCall.apply] at h
  cases hwritten : fs.write (machine.at path) [] with
  | error e =>
    rw [hwritten] at h
    cases h
  | ok written =>
    rw [hwritten] at h
    cases h
    exact (Fs.write_changes hwritten).mono fun q n hq => ⟨hq.1, _, hq.2⟩

theorem apply_writeZip_changes {arcname : String} {a}
    (h : (DiskCall.writeZip path source arcname).apply machine fs = .ok (a, fs')) :
    Fs.Changes (fun q n => q = machine.at path ∧ ∃ content, n = some (.file content)) fs fs' := by
  have hwrite : ∀ {content : Bytes},
    (fs.write (machine.at path) content).map ((), ·) = .ok (a, fs') →
      Fs.Changes (fun q n => q = machine.at path ∧ ∃ content, n = some (.file content)) fs fs' := by
    intro content h
    cases hwritten : fs.write (machine.at path) content with
    | error e =>
      rw [hwritten] at h
      cases h
    | ok written =>
      rw [hwritten] at h
      cases h
      exact (Fs.write_changes hwritten).mono fun q n hq => ⟨hq.1, _, hq.2⟩
  simp only [DiskCall.apply] at h
  split at h
  · exact hwrite h
  · exact hwrite h
  · cases h

theorem apply_unlink_changes {a} (h : (DiskCall.unlink path).apply machine fs = .ok (a, fs')) :
    Fs.Changes (fun q n => q = machine.at path ∧ n = none) fs fs' := by
  simp only [DiskCall.apply] at h
  cases hremoved : fs.unlink (machine.at path) with
  | ok removed =>
    rw [hremoved] at h
    cases h
    exact Fs.unlink_changes hremoved
  | error e =>
    rw [hremoved] at h
    cases e <;> cases h
    exact .refl _ _

theorem apply_rmdir_changes {a} (h : (DiskCall.rmdir path).apply machine fs = .ok (a, fs')) :
    Fs.Changes (fun q n => q = machine.at path ∧ n = none) fs fs' := by
  simp only [DiskCall.apply] at h
  cases hremoved : fs.rmdir (machine.at path) with
  | error e =>
    rw [hremoved] at h
    cases h
  | ok removed =>
    rw [hremoved] at h
    cases h
    exact Fs.rmdir_changes hremoved

/-- A move to below a directory, whatever is moved and whatever stands at its target. -/
theorem apply_move_changes {a} {stage : FsPath}
    (h : (DiskCall.move source target).apply machine fs = .ok (a, fs'))
    (htarget : stage <+: machine.at target) :
    Fs.Changes (fun q n => stage <+: q ∨ machine.at source <+: q ∧ n = none ∨
      n = some .dir ∧ q <+: stage) fs fs' := by
  obtain ⟨real, hmove⟩ := apply_move h
  obtain ⟨hreal, hmoved⟩ := Fs.shutilMove_ok hmove
  have hbelow : stage <+: real := by
    rcases hreal with rfl | ⟨hreal, -⟩
    · exact htarget
    · exact htarget.trans hreal
  rcases hmoved with ⟨-, rfl⟩ | ⟨fs₁, hextended, hmoved⟩
  · exact .refl _ _
  · refine (hextended.changes.mono ?_).trans (hmoved.changes.mono ?_)
    · rintro q n ⟨rfl, hq⟩
      rcases List.prefix_or_prefix_of_prefix (hq.trans (List.dropLast_prefix _)) hbelow with hq | hq
      · exact .inr (.inr ⟨rfl, hq⟩)
      · exact .inl hq
    · rintro q n (hq | hq)
      · exact .inl (hbelow.trans hq)
      · exact .inr (.inl hq)

/-- Whatever is no directory, moved to where no directory is. -/
theorem apply_move_file_changes {a}
    (h : (DiskCall.move source target).apply machine fs = .ok (a, fs'))
    (hsource : fs.node (machine.at source) ≠ some .dir)
    (htarget : fs.node (machine.at target) ≠ some .dir) :
    Fs.Changes (fun q n => (q = machine.at target ∧ ∃ content, n = some (.file content)) ∨
      machine.at source <+: q ∧ n = none ∨ n = some .dir ∧ q <+: (machine.at target).dropLast)
      fs fs' := by
  obtain ⟨real, hmove⟩ := apply_move h
  obtain rfl := Fs.shutilMove_real hmove (by simpa [Fs.isDir] using htarget)
  obtain ⟨content, hfile⟩ : ∃ content, fs.node (machine.at source) = some (.file content) := by
    cases hnode : fs.node (machine.at source) with
    | none => exact absurd hnode (Fs.shutilMove_present hmove)
    | some n =>
      cases n with
      | file content => exact ⟨content, rfl⟩
      | dir => exact absurd hnode hsource
  rcases (Fs.shutilMove_ok hmove).2 with ⟨-, rfl⟩ | ⟨fs₁, hextended, hmoved⟩
  · exact .refl _ _
  · refine (hextended.changes.mono fun q n hq => .inr (.inr hq)).trans
      ((hmoved.changes_file (hextended.kept _ _ hfile)).mono ?_)
    rintro q n (⟨hq, hn⟩ | hq)
    · exact .inl ⟨hq, _, hn⟩
    · exact .inr (.inl hq)

/-- A call that meets with no fault and that the file system answers. -/
theorem Triple.answeredCall {σ : Type} {s : OnDisk σ} {c : DiskCall} {a : c.Answer} {fs : Fs}
    {Q : c.Answer → OnDisk σ → Prop} {E : Exn → OnDisk σ → Prop} (hfaults : s.world.faults = [])
    (happly : c.apply machine s.world.fs = .ok (a, fs))
    (h : Q a ⟨s.state, ⟨fs, []⟩, s.log ++ [⟨c, .ok a⟩]⟩) :
      Triple (DpostV2.onDisk machine c) s Q E := by
  refine .onDisk (fun b fs' hok => ?_) fun e hrefused => ?_
  · cases happly.symm.trans hok
    rw [hfaults]
    exact h
  · obtain ⟨os, hos⟩ := hrefused hfaults
    cases happly.symm.trans hos

/-- A program whose every call changes only what is allowed. -/
theorem onDisk_changes {σ : Type} {c : DiskCall} {before : Fs}
    (h : ∀ fs fs' a, c.apply machine fs = .ok (a, fs') → Fs.Changes A fs fs') :
    Keeps (fun s : OnDisk σ => Fs.Changes A before s.world.fs) (onDisk machine c) :=
  fun _ hs => .onDisk (fun _ _ happly => hs.trans (h _ _ _ happly)) fun _ _ => hs

end

end DpostV2
