import DpostV2.Lib.Effect
import DpostV2.Lib.Fs

/-!
# A disk whose calls can fail

A file system with the faults its next calls run into. A call that runs into
one does nothing and raises; any other does what the file system does. A program
on a disk can look at it without a call, and its log holds the
calls that can fail.
-/

namespace DpostV2

inductive DiskCall where
  | readBytes (path : PurePath)
  | iterdir (path : PurePath)
  /-- `path.mkdir(parents=True, exist_ok=False)` -/
  | mkdir (path : PurePath)
  /-- `path.mkdir(parents=True, exist_ok=True)` -/
  | mkdirs (path : PurePath)
  /-- `shutil.move` -/
  | move (source target : PurePath)
  /-- `ZipFile(path, mode="w")` -/
  | openZip (path : PurePath)
  | writeZip (path source : PurePath) (arcname : String)
  /-- `path.unlink(missing_ok=True)` -/
  | unlink (path : PurePath)
  | rmdir (path : PurePath)

@[reducible] def DiskCall.Answer : DiskCall → Type
  | .readBytes _ => Bytes
  | .iterdir _ => List String
  | _ => Unit

/-- What the calls depend on besides the files: the working directory, between which paths a
rename fails with `EXDEV`, the bytes of an archive of one entry, and what an error raises. -/
structure Machine where
  cwd : FsPath
  crossDevice : FsPath → FsPath → Bool
  archive : String → Bytes → Bytes
  raised : OsError → Exn

def Machine.at (machine : Machine) (path : PurePath) : FsPath := path.locate machine.cwd

/-- `p / name`. -/
def PurePath.slash (p : PurePath) (name : String) : PurePath := p.join (PurePath.parse name)

section
variable (machine : Machine)

def DiskCall.apply : (c : DiskCall) → Fs → Except OsError (c.Answer × Fs)
  | .readBytes path, fs =>
    match fs.node (machine.at path) with
    | some (.file content) => .ok (content, fs)
    | some .dir => .error .isADirectory
    | none => .error .notFound
  | .iterdir path, fs =>
    match fs.node (machine.at path) with
    | some .dir => .ok ((fs.children (machine.at path)).filter fun name => IsSegment name, fs)
    | some (.file _) => .error .notADirectory
    | none => .error .notFound
  | .mkdir path, fs => do
    let fs ← fs.mkdirs (machine.at path).dropLast
    let fs ← fs.mkdir (machine.at path)
    return ((), fs)
  | .mkdirs path, fs => (fs.mkdirs (machine.at path)).map ((), ·)
  | .move source target, fs =>
    (fs.shutilMove machine.crossDevice (machine.at source) (machine.at target)).map
      fun (_, fs) => ((), fs)
  | .openZip path, fs => (fs.write (machine.at path) []).map ((), ·)
  | .writeZip path source arcname, fs =>
    match fs.node (machine.at source) with
    | some (.file content) =>
      (fs.write (machine.at path) (machine.archive arcname content)).map ((), ·)
    | some .dir =>
      (fs.write (machine.at path) (machine.archive (arcname ++ "/") [])).map ((), ·)
    | none => .error .notFound
  | .unlink path, fs =>
    match fs.unlink (machine.at path) with
    | .ok fs => .ok ((), fs)
    | .error .notFound => .ok ((), fs)
    | .error e => .error e
  | .rmdir path, fs => (fs.rmdir (machine.at path)).map ((), ·)

/-- Empty files at these paths. -/
def Fs.ofFiles (paths : List FsPath) : Fs :=
  paths.foldl (fun fs p => ((fs.mkdirs p.dropLast).bind (·.write p [])).toOption.getD fs) Fs.empty

/-- The files, and what the next calls run into. -/
structure Disk where
  fs : Fs
  faults : List (Option Exn) := []

@[reducible] def DiskCall.Res (c : DiskCall) : Type := Except Exn c.Answer

def Disk.exec (c : DiskCall) (disk : Disk) : c.Res × Disk :=
  match disk.faults with
  | some e :: faults => (.error e, { disk with faults })
  | faults =>
    match c.apply machine disk.fs with
    | .ok (a, fs) => (.ok a, ⟨fs, faults.tail⟩)
    | .error e => (.error (machine.raised e), { disk with faults := faults.tail })

end

abbrev OnDisk (σ : Type) := Traced σ Disk DiskCall DiskCall.Res

abbrev DiskM (σ α : Type) := Eff Exn (OnDisk σ) α

def onDisk {σ : Type} (machine : Machine) (c : DiskCall) : DiskM σ c.Answer :=
  Traced.perform (Disk.exec machine) c

/-- A look at the files. -/
def inspect {σ : Type} (f : Fs → α) : DiskM σ α := fun s => (.ok (f s.world.fs), s)

-- ---------------------------------------------------------------------------
-- Rules
-- ---------------------------------------------------------------------------

section
variable {σ : Type} {machine : Machine} {c : DiskCall} {s : OnDisk σ} {disk : Disk}

/-- A call uses up a fault, and changes the files when it is answered. Without faults ahead it
fails only where the file system refuses it. -/
theorem Disk.exec_cases :
    (∃ e, disk.exec machine c = (.error e, ⟨disk.fs, disk.faults.tail⟩) ∧
      (disk.faults = [] → ∃ os, c.apply machine disk.fs = .error os)) ∨
    ∃ a fs, c.apply machine disk.fs = .ok (a, fs) ∧
      disk.exec machine c = (.ok a, ⟨fs, disk.faults.tail⟩) := by
  obtain ⟨fs, faults⟩ := disk
  unfold Disk.exec
  dsimp only
  split
  · exact .inl ⟨_, rfl, nofun⟩
  · cases h : c.apply machine fs with
    | error os => exact .inl ⟨_, rfl, fun _ => ⟨os, rfl⟩⟩
    | ok r => exact .inr ⟨_, _, rfl, rfl⟩

theorem Triple.onDisk {Q : c.Answer → OnDisk σ → Prop} {E : Exn → OnDisk σ → Prop}
    (hok : ∀ a fs, c.apply machine s.world.fs = .ok (a, fs) →
      Q a ⟨s.state, ⟨fs, s.world.faults.tail⟩, s.log ++ [⟨c, .ok a⟩]⟩)
    (herr : ∀ e, (s.world.faults = [] → ∃ os, c.apply machine s.world.fs = .error os) →
      E e ⟨s.state, ⟨s.world.fs, s.world.faults.tail⟩, s.log ++ [⟨c, .error e⟩]⟩) :
    Triple (DpostV2.onDisk machine c) s Q E := by
  rcases @Disk.exec_cases machine c s.world with
    ⟨e, h, hrefused⟩ | ⟨a, fs, happly, h⟩
  · refine .perform (fun a ha => ?_) fun e' he' => ?_
    · rw [h] at ha
      cases ha
    · rw [h] at he'
      cases he'
      rw [Traced.answered, h]
      exact herr e hrefused
  · refine .perform (fun a' ha' => ?_) fun e' he' => ?_
    · rw [h] at ha'
      cases ha'
      rw [Traced.answered, h]
      exact hok a fs happly
    · rw [h] at he'
      cases he'

theorem Triple.inspect {f : Fs → α} {Q : α → OnDisk σ → Prop} {E : Exn → OnDisk σ → Prop}
    (h : Q (f s.world.fs) s) : Triple (DpostV2.inspect f) s Q E := by
  unfold Triple
  exact h

/-- On with what a look shows. -/
theorem Triple.look {f : Fs → α} {g : α → DiskM σ β} {R : β → OnDisk σ → Prop}
    {E : Exn → OnDisk σ → Prop} (h : Triple (g (f s.world.fs)) s R E) :
    Triple (DpostV2.inspect f >>= g) s R E :=
  .bind (Q := fun a s' => a = f s.world.fs ∧ s = s') (.inspect ⟨rfl, rfl⟩)
    (by rintro _ _ ⟨rfl, rfl⟩; exact h)

/-- Reading changes nothing. -/
theorem apply_readBytes {path : PurePath} {fs fs' : Fs} {a}
    (h : (DiskCall.readBytes path).apply machine fs = .ok (a, fs')) : fs' = fs := by
  simp only [DiskCall.apply] at h
  split at h
  · cases h
    rfl
  · cases h
  · cases h

theorem apply_iterdir {path : PurePath} {fs fs' : Fs} {names}
    (h : (DiskCall.iterdir path).apply machine fs = .ok (names, fs')) :
    fs' = fs ∧ names = (fs.children (machine.at path)).filter fun name => IsSegment name := by
  simp only [DiskCall.apply] at h
  split at h
  · cases h
    exact ⟨rfl, rfl⟩
  · cases h
  · cases h

theorem apply_move {source target : PurePath} {fs fs' : Fs} {a}
    (h : (DiskCall.move source target).apply machine fs = .ok (a, fs')) :
    ∃ real, fs.shutilMove machine.crossDevice (machine.at source) (machine.at target) =
      .ok (real, fs') := by
  simp only [DiskCall.apply] at h
  cases hmove : fs.shutilMove machine.crossDevice (machine.at source) (machine.at target) with
  | ok r =>
    rw [hmove] at h
    cases h
    exact ⟨_, rfl⟩
  | error e =>
    rw [hmove] at h
    cases h

/-- What does not depend on the files and the log survives every call. -/
theorem Keeps.onDisk {I : OnDisk σ → Prop}
    (h : ∀ s disk step, I s → I { s with world := disk, log := s.log ++ [step] }) :
    Keeps I (DpostV2.onDisk machine c) :=
  .call fun s _ disk hs => h s disk _ hs

theorem Keeps.inspect {f : Fs → α} {I : OnDisk σ → Prop} : Keeps I (DpostV2.inspect f) :=
  fun _ h => .inspect h

end

-- ---------------------------------------------------------------------------
-- Where paths lead
-- ---------------------------------------------------------------------------

/-- The last component stands for an entry of a directory. -/
def PurePath.NamesEntry (p : PurePath) : Prop := p.name ≠ "" ∧ p.name ≠ ".."

instance : DecidablePred PurePath.NamesEntry := fun _ => inferInstanceAs (Decidable (_ ∧ _))

section
variable {machine : Machine} {p : PurePath} {name : String}

theorem FsPath.walk_append (base : FsPath) (parts rest : List String) :
    FsPath.walk base (parts ++ rest) = FsPath.walk (FsPath.walk base parts) rest :=
  List.foldl_append

theorem parse_segment (h : IsSegment name) :
    PurePath.parse name = ⟨.relative, [name], by simpa using h⟩ := by
  have hstr : PurePath.str ⟨.relative, [name], by simpa using h⟩ = name := by
    simp [PurePath.str, PathRoot.text]
  rw [← PurePath.parse_str ⟨.relative, [name], by simpa using h⟩, hstr]

theorem slash_parts (h : IsSegment name) : (p.slash name).parts = p.parts ++ [name] := by
  simp [PurePath.slash, PurePath.join, parse_segment h]

theorem slash_name (h : IsSegment name) : (p.slash name).name = name := by
  simp [PurePath.name, slash_parts h]

theorem slash_parent (h : IsSegment name) : (p.slash name).parent = p := by
  ext1
  · simp [PurePath.parent, PurePath.slash, PurePath.join, parse_segment h]
  · simp [PurePath.parent, slash_parts h]

theorem slash_injective {name' : String} (h : IsSegment name) (h' : IsSegment name')
    (heq : p.slash name = p.slash name') : name = name' := by
  rw [← slash_name (p := p) h, heq, slash_name h']

theorem at_slash (h : IsSegment name) (hup : name ≠ "..") :
    machine.at (p.slash name) = machine.at p ++ [name] := by
  have hroot : (p.slash name).root = p.root := by
    simp [PurePath.slash, PurePath.join, parse_segment h]
  rw [Machine.at, PurePath.locate, slash_parts h, hroot, FsPath.walk_append]
  simp [FsPath.walk, hup, Machine.at, PurePath.locate]

theorem PurePath.name_mem (h : p.name ≠ "") : p.parts = p.parts.dropLast ++ [p.name] := by
  have hne : p.parts ≠ [] := by
    intro hnil
    simp [PurePath.name, hnil] at h
  conv_lhs => rw [← List.dropLast_append_getLast hne]
  rw [PurePath.name, List.getLastD_eq_getLast?, List.getLast?_eq_some_getLast hne]
  rfl

theorem PurePath.name_segment (h : p.name ≠ "") : IsSegment p.name :=
  p.segments _ (by rw [PurePath.name_mem h]; simp)

theorem at_parent (h : p.NamesEntry) : machine.at p = machine.at p.parent ++ [p.name] := by
  have hlast : ∀ base, FsPath.walk base [p.name] = base ++ [p.name] := fun base => if_neg h.2
  rw [Machine.at, PurePath.locate, PurePath.name_mem h.1, FsPath.walk_append, hlast]
  rfl

end

end DpostV2
