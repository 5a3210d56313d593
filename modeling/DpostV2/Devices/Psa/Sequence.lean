import DpostV2.Devices.Psa.Confined
import DpostV2.Devices.Psa.Once

/-!
# Sequence names

The pairs of a batch are numbered on from the highest number in the output directory, which is read
again for each: `sequence_fresh_iff`. What counts is a regular file whose number `str.isdigit`
admits; `int` may refuse it, and a directory of the name does not count.
-/

namespace DpostV2.Devices.Psa

/-- What `int` and `str.isdigit` promise of ASCII digits. -/
class LawfulDigits [Interpreter] : Prop where
  isDigit_ascii : ∀ c : Char, c.isDigit = true → Interpreter.isDigit c = true
  parseInt_twoDigits : ∀ n : Nat, Interpreter.parseInt (twoDigits n) = some (n : Int)

-- ---------------------------------------------------------------------------
-- Numbered names
-- ---------------------------------------------------------------------------

/-- `f"{prefix}-{n:02d}"`. -/
def numbered (namePrefix : String) (n : Nat) : String := namePrefix ++ "-" ++ twoDigits n

section
variable [Interpreter]

/-- What `int` is asked to read of a name. -/
def sequenceSuffix (namePrefix name : String) : Option String :=
  match rpartitionDash (stemOf name) with
  | some (base, suffix) =>
    if base = namePrefix ∧ isDigitText suffix = true then some suffix else none
  | none => none

/-- Every number there is can be read. -/
def Readable (namePrefix : String) (names : List String) : Prop :=
  ∀ name ∈ names, ∀ suffix, sequenceSuffix namePrefix name = some suffix →
    (Interpreter.parseInt suffix).isSome = true

def sequenceNumber (namePrefix name : String) : Option Nat :=
  (sequenceSuffix namePrefix name).bind fun suffix => (Interpreter.parseInt suffix).map Int.toNat

/-- The highest number of the names, `0` where there is none. -/
def highestNumber (namePrefix : String) (names : List String) : Nat :=
  (names.filterMap (sequenceNumber namePrefix)).foldr max 0

theorem highestNumber_le {namePrefix : String} {names : List String} {k : Nat} :
    highestNumber namePrefix names ≤ k ↔
      ∀ name ∈ names, ∀ n, sequenceNumber namePrefix name = some n → n ≤ k := by
  have hmax (l : List Nat) : l.foldr max 0 ≤ k ↔ ∀ n ∈ l, n ≤ k := by
    induction l with
    | nil => simp
    | cons n l ih => simp [ih]
  rw [highestNumber, hmax]
  simp only [List.mem_filterMap]
  exact ⟨fun h name hname n hn => h n ⟨name, hname, hn⟩,
    fun h n ⟨name, hname, hn⟩ => h name hname n hn⟩

theorem highestNumber_cons (namePrefix name : String) (names : List String) :
    highestNumber namePrefix (name :: names) =
      max ((sequenceNumber namePrefix name).getD 0) (highestNumber namePrefix names) := by
  unfold highestNumber
  cases h : sequenceNumber namePrefix name <;> simp [h]

theorem readable_cons {namePrefix name : String} {names : List String} :
    Readable namePrefix (name :: names) ↔
      (∀ suffix, sequenceSuffix namePrefix name = some suffix →
        (Interpreter.parseInt suffix).isSome = true) ∧ Readable namePrefix names := by
  simp [Readable]

/-- What the scan computes: the highest number, if it can read all. -/
theorem maxIndex_ok {namePrefix : String} {names : List String} {highest r : Nat} :
    maxIndex namePrefix highest names = .ok r ↔
      Readable namePrefix names ∧ r = max highest (highestNumber namePrefix names) := by
  induction names generalizing highest with
  | nil =>
    have hread : Readable namePrefix [] := by simp [Readable]
    simp [maxIndex, hread, highestNumber, eq_comm (a := r)]
  | cons name names ih =>
    rw [readable_cons, highestNumber_cons, maxIndex]
    have hskip (h : sequenceSuffix namePrefix name = none) :
        maxIndex namePrefix highest names = .ok r ↔
          ((∀ suffix, sequenceSuffix namePrefix name = some suffix →
            (Interpreter.parseInt suffix).isSome = true) ∧ Readable namePrefix names) ∧
          r = max highest (max ((sequenceNumber namePrefix name).getD 0)
            (highestNumber namePrefix names)) := by
      simp [ih, h, sequenceNumber]
    cases hparts : rpartitionDash (stemOf name) with
    | none => exact hskip (by simp [sequenceSuffix, hparts])
    | some parts =>
      obtain ⟨base, suffix⟩ := parts
      by_cases hcounts : base = namePrefix ∧ isDigitText suffix = true
      · have hsuffix : sequenceSuffix namePrefix name = some suffix := by
          simp [sequenceSuffix, hparts, hcounts]
        simp only [if_pos hcounts, except_bind_ok, ih, hsuffix, sequenceNumber, pyInt]
        cases hint : Interpreter.parseInt suffix with
        | none => simp [hint]
        | some i => simp [hint, max_assoc]
      · simp only [if_neg hcounts]
        exact hskip (by simp [sequenceSuffix, hparts, hcounts])

variable [LawfulDigits]

omit [Interpreter] [LawfulDigits] in
theorem isDigit_twoDigits (n : Nat) {c : Char} (h : c ∈ (twoDigits n).toList) :
    c.isDigit = true := by
  have hdigits {c : Char} (h : c ∈ (toString n).toList) : c.isDigit = true := by
    rw [Nat.toString_eq_repr, Nat.toList_repr] at h
    exact Nat.isDigit_of_mem_toDigits (by decide) (by decide) h
  unfold twoDigits at h
  split at h
  · rw [String.toList_append, List.mem_append] at h
    rcases h with h | h
    · obtain rfl : c = '0' := by simpa using h
      decide
    · exact hdigits h
  · exact hdigits h

omit [Interpreter] [LawfulDigits] in
theorem twoDigits_ne_empty (n : Nat) : twoDigits n ≠ "" := by
  have hne : toString n ≠ "" := by
    rw [Nat.toString_eq_repr, ne_eq, ← String.toList_inj, Nat.toList_repr]
    exact Nat.toDigits_ne_nil
  unfold twoDigits
  split
  · simp
  · exact hne

omit [Interpreter] [LawfulDigits] in
/-- What follows the last dash of a numbered name is its number. -/
theorem rpartitionDash_numbered (namePrefix : String) (n : Nat) :
    rpartitionDash (numbered namePrefix n) = some (namePrefix, twoDigits n) := by
  have hdigits : ∀ c ∈ (twoDigits n).toList.reverse, decide (c ≠ '-') = true := by
    rintro c hc
    have hdigit := isDigit_twoDigits n (List.mem_reverse.mp hc)
    rw [decide_eq_true_iff]
    rintro rfl
    exact absurd hdigit (by decide)
  have hreverse : (numbered namePrefix n).toList.reverse =
      (twoDigits n).toList.reverse ++ '-' :: namePrefix.toList.reverse := by
    simp [numbered]
  have hdrop : (numbered namePrefix n).toList.reverse.dropWhile (· ≠ '-') =
      '-' :: namePrefix.toList.reverse := by
    rw [hreverse, List.dropWhile_append_of_pos hdigits]
    simp
  have htake : (numbered namePrefix n).toList.reverse.takeWhile (· ≠ '-') =
      (twoDigits n).toList.reverse := by
    rw [hreverse, List.takeWhile_append_of_pos hdigits]
    simp
  unfold rpartitionDash
  rw [hdrop, htake]
  simp

omit [Interpreter] [LawfulDigits] in
/-- The stem of a name with an extension. -/
theorem stemOf_append {stem extension : String} (hstem : stem ≠ "") (hextension : extension ≠ "")
    (hdot : '.' ∉ extension.toList) : stemOf (stem ++ "." ++ extension) = stem := by
  have hbehind : ∀ c ∈ extension.toList.reverse, decide (c ≠ '.') = true := by
    rintro c hc
    rw [decide_eq_true_iff]
    rintro rfl
    exact hdot (List.mem_reverse.mp hc)
  have hreverse : (stem ++ "." ++ extension).toList.reverse =
      extension.toList.reverse ++ '.' :: stem.toList.reverse := by
    simp
  have hdrop : (stem ++ "." ++ extension).toList.reverse.dropWhile (· ≠ '.') =
      '.' :: stem.toList.reverse := by
    rw [hreverse, List.dropWhile_append_of_pos hbehind]
    simp
  have htake : (stem ++ "." ++ extension).toList.reverse.takeWhile (· ≠ '.') =
      extension.toList.reverse := by
    rw [hreverse, List.takeWhile_append_of_pos hbehind]
    simp
  have hfull : ¬(stem.toList.reverse.isEmpty = true ∨ extension.toList.reverse.isEmpty = true) := by
    simp [hstem, hextension]
  unfold stemOf splitSuffix
  rw [hdrop, htake]
  simp only [if_neg hfull, List.reverse_reverse, String.ofList_toList]

theorem sequenceNumber_numbered (namePrefix : String) (n : Nat) {extension : String}
    (hextension : extension ≠ "") (hdot : '.' ∉ extension.toList) :
    sequenceNumber namePrefix (numbered namePrefix n ++ "." ++ extension) = some n := by
  have hne : numbered namePrefix n ≠ "" := by simp [numbered]
  have hdigits : isDigitText (twoDigits n) = true := by
    simp only [isDigitText, twoDigits_ne_empty, ne_eq, not_false_eq_true, decide_true,
      Bool.true_and, List.all_eq_true]
    exact fun c hc => LawfulDigits.isDigit_ascii c (isDigit_twoDigits n hc)
  simp [sequenceNumber, sequenceSuffix, stemOf_append hne hextension hdot,
    rpartitionDash_numbered, hdigits, LawfulDigits.parseInt_twoDigits]

end

-- ---------------------------------------------------------------------------
-- The names in a directory
-- ---------------------------------------------------------------------------

section
variable {setup : Setup} {fs : Fs} {outputDir : PurePath} {namePrefix name extension : String}

def regularFiles (setup : Setup) (fs : Fs) (directory : PurePath) : List String :=
  ((fs.children (setup.machine.at directory)).filter fun name => IsSegment name).filter fun name =>
    fs.isFile (setup.machine.at (directory.slash name))

theorem mem_regularFiles (hname : IsSegment name) (hup : name ≠ "..") :
    name ∈ regularFiles setup fs outputDir ↔
      fs.isFile (setup.machine.at outputDir ++ [name]) = true := by
  simp only [regularFiles, List.mem_filter, Fs.mem_children, at_slash hname hup, hname,
    decide_true, and_true, and_iff_right_iff_imp]
  intro hfile
  obtain ⟨content, hcontent⟩ := Fs.isFile_iff.mp hfile
  rw [hcontent]
  rfl

theorem numbered_entry (hslash : '/' ∉ namePrefix.toList) (n : Nat)
    (hextension : '/' ∉ extension.toList) :
    IsSegment (numbered namePrefix n ++ "." ++ extension) ∧
      numbered namePrefix n ++ "." ++ extension ≠ ".." := by
  have hdash : '-' ∈ (numbered namePrefix n ++ "." ++ extension).toList := by simp [numbered]
  have hne : ∀ short : String, '-' ∉ short.toList →
      numbered namePrefix n ++ "." ++ extension ≠ short := by
    rintro short hshort rfl
    exact hshort hdash
  refine ⟨⟨hne _ (by decide), hne _ (by decide), ?_⟩, hne _ (by decide)⟩
  simp [numbered, hslash, hextension, not_slash_twoDigits]

theorem csvDest_numbered (outputDir : PurePath) (namePrefix : String) (n : Nat) :
    csvDest outputDir (numbered namePrefix n) =
      outputDir.slash (numbered namePrefix n ++ "." ++ "csv") := by
  have hextension : ".csv" = "." ++ "csv" := rfl
  rw [csvDest, hextension, String.append_assoc]

theorem zipDest_numbered (outputDir : PurePath) (namePrefix : String) (n : Nat) :
    zipDest outputDir (numbered namePrefix n) =
      outputDir.slash (numbered namePrefix n ++ "." ++ "zip") := by
  have hextension : ".zip" = "." ++ "zip" := rfl
  rw [zipDest, hextension, String.append_assoc]

variable [Interpreter]

/-- A name that counts is an entry of its directory. -/
theorem sequenceSuffix_up {suffix : String} (h : sequenceSuffix namePrefix name = some suffix) :
    name ≠ ".." := by
  rintro rfl
  have hnone : rpartitionDash (stemOf "..") = none := by decide
  rw [sequenceSuffix, hnone] at h
  cases h

theorem mem_regularFiles_iff {suffix : String}
    (hsuffix : sequenceSuffix namePrefix name = some suffix) :
    name ∈ regularFiles setup fs outputDir ↔
      IsSegment name ∧ fs.isFile (setup.machine.at outputDir ++ [name]) = true := by
  constructor
  · intro h
    have hname : IsSegment name := by
      have hfiltered := (List.mem_filter.mp (List.mem_filter.mp h).1).2
      simpa using hfiltered
    exact ⟨hname, (mem_regularFiles hname (sequenceSuffix_up hsuffix)).mp h⟩
  · rintro ⟨hname, hfile⟩
    exact (mem_regularFiles hname (sequenceSuffix_up hsuffix)).mpr hfile

end

-- ---------------------------------------------------------------------------
-- One pair
-- ---------------------------------------------------------------------------

section
variable {setup : Setup} {s : PsaWorld} {outputDir : PurePath} {namePrefix : String}
  {pair : Pair} {pairs : List Pair}

/-- What can be finalized: pairs of files, each file once, and a directory to put them in. -/
structure Batched (setup : Setup) (s : PsaWorld) (outputDir : PurePath) (pairs : List Pair) :
    Prop where
  faults : s.world.faults = []
  dir : s.world.fs.node (setup.machine.at outputDir) = some .dir
  files : ∀ file ∈ batchFiles pairs, isFileAt setup s file
  distinct : ((batchFiles pairs).map setup.machine.at).Nodup

/-- A pair has become two files in the output directory. -/
structure Finalized (setup : Setup) (fs fs' : Fs) (pair : Pair) (csvTarget zipTarget : FsPath) :
    Prop where
  csv : fs'.isFile csvTarget = true
  zip : fs'.isFile zipTarget = true
  gone : ∀ file ∈ pair.files, fs'.node (setup.machine.at file) = none
  kept : ∀ q, q ≠ csvTarget → q ≠ zipTarget → q ∉ pair.files.map setup.machine.at →
    fs'.node q = fs.node q

theorem ne_of_vacant {fs : Fs} {p q : FsPath} {node : Node} (hp : fs.node p = none)
    (hq : fs.node q = some node) : q ≠ p := by
  rintro rfl
  rw [hp] at hq
  cases hq

/-- The move of the CSV and the archive of the NGB. -/
theorem Finalized.of_steps {fs fs₁ fs₂ : Fs} {csvTarget zipTarget : FsPath}
    {csvContent ngbContent archive : Bytes}
    (hcsv : fs.node (setup.machine.at pair.csvPath) = some (.file csvContent))
    (hngb : fs.node (setup.machine.at pair.ngbPath) = some (.file ngbContent))
    (hpair : setup.machine.at pair.csvPath ≠ setup.machine.at pair.ngbPath)
    (hne : csvTarget ≠ zipTarget) (hcsvFree : fs.node csvTarget = none)
    (hzipFree : fs.node zipTarget = none)
    (hmoved : ∀ q, fs₁.node q = if q = csvTarget then some (.file csvContent)
      else if q = setup.machine.at pair.csvPath then none else fs.node q)
    (hzipped : ∀ q, fs₂.node q = if q = setup.machine.at pair.ngbPath then none
      else if q = zipTarget then some (.file archive) else fs₁.node q) :
    Finalized setup fs fs₂ pair csvTarget zipTarget := by
  refine ⟨?_, ?_, ?_, fun q hqcsv hqzip hq => ?_⟩
  · exact Fs.isFile_iff.mpr ⟨csvContent, by
      rw [hzipped, if_neg (ne_of_vacant hcsvFree hngb).symm, if_neg hne, hmoved, if_pos rfl]⟩
  · exact Fs.isFile_iff.mpr ⟨archive, by
      rw [hzipped, if_neg (ne_of_vacant hzipFree hngb).symm, if_pos rfl]⟩
  · intro file hfile
    rcases List.mem_pair.mp hfile with rfl | rfl
    · rw [hzipped, if_neg hpair, if_neg (ne_of_vacant hzipFree hcsv), hmoved,
        if_neg (ne_of_vacant hcsvFree hcsv), if_pos rfl]
    · rw [hzipped, if_pos rfl]
  · simp only [Pair.files, List.map_cons, List.map_nil, List.mem_cons, List.not_mem_nil,
      or_false, not_or] at hq
    rw [hzipped, if_neg hq.2, if_neg hqzip, hmoved, if_neg hqcsv, if_neg hq.1]

/-- No directory has been made. -/
theorem Finalized.dir_before {fs fs' : Fs} {csvTarget zipTarget q : FsPath}
    (h : Finalized setup fs fs' pair csvTarget zipTarget) (hdir : fs'.node q = some .dir) :
    fs.node q = some .dir := by
  have hnot : fs'.isFile q ≠ true := by simp [Fs.isFile, hdir]
  have hcsv : q ≠ csvTarget := by
    rintro rfl
    exact hnot h.csv
  have hzip : q ≠ zipTarget := by
    rintro rfl
    exact hnot h.zip
  have hgone : q ∉ pair.files.map setup.machine.at := by
    intro hmem
    obtain ⟨file, hfile, rfl⟩ := List.mem_map.mp hmem
    rw [h.gone file hfile] at hdir
    cases hdir
  rwa [← h.kept q hcsv hzip hgone]

theorem move_run {source target : PurePath} {content : Bytes} {directory : FsPath} {name : String}
    (hfaults : s.world.faults = []) (hdir : s.world.fs.node directory = some .dir)
    (hfile : s.world.fs.node (setup.machine.at source) = some (.file content))
    (htarget : setup.machine.at target = directory ++ [name])
    (hfree : s.world.fs.node (directory ++ [name]) = none) :
    Triple (onDisk setup.machine (.move source target)) s
      (fun _ s' => s'.world.faults = [] ∧ ∀ q, s'.world.fs.node q =
        if q = directory ++ [name] then some (.file content)
        else if q = setup.machine.at source then none else s.world.fs.node q)
      fun _ _ => False := by
  obtain ⟨fs', hmove, hnode⟩ := Fs.shutilMove_file setup.machine.crossDevice
    (directory ++ [name]) hfile (by rw [List.dropLast_concat]; exact hdir) hfree
  have happly : (DiskCall.move source target).apply setup.machine s.world.fs = .ok ((), fs') := by
    simp only [DiskCall.apply, htarget, hmove]
    rfl
  exact .answeredCall hfaults happly ⟨rfl, hnode⟩

theorem zipNgb_run {source target : PurePath} {content : Bytes} {directory : FsPath}
    {name archiveName : String} (hfaults : s.world.faults = [])
    (hdir : s.world.fs.node directory = some .dir)
    (hfile : s.world.fs.node (setup.machine.at source) = some (.file content))
    (htarget : setup.machine.at target = directory ++ [name])
    (hfree : s.world.fs.node (directory ++ [name]) = none) :
    Triple (zipNgb setup source target archiveName) s
      (fun _ s' => s'.world.faults = [] ∧ ∃ archive, ∀ q, s'.world.fs.node q =
        if q = setup.machine.at source then none
        else if q = directory ++ [name] then some (.file archive) else s.world.fs.node q)
      fun _ _ => False := by
  have hne : setup.machine.at source ≠ directory ++ [name] := by
    intro heq
    rw [heq, hfree] at hfile
    cases hfile
  have hdirNe : directory ≠ directory ++ [name] := fun h => by simp at h
  obtain ⟨fs₁, hopen, hnode₁⟩ := Fs.write_file [] (p := directory ++ [name]) (by simp)
    (by rw [List.dropLast_concat]; exact hdir) (by rw [hfree]; nofun)
  have hparent₁ : fs₁.node (directory ++ [name]).dropLast = some .dir := by
    rw [List.dropLast_concat, hnode₁, if_neg hdirNe, hdir]
  have hopened : fs₁.node (directory ++ [name]) ≠ some .dir := by
    rw [hnode₁, if_pos rfl]
    nofun
  obtain ⟨fs₂, hwrite, hnode₂⟩ := Fs.write_file (setup.machine.archive archiveName content)
    (by simp) hparent₁ hopened
  have hfile₁ : fs₁.node (setup.machine.at source) = some (.file content) := by
    rw [hnode₁, if_neg hne, hfile]
  have hfile₂ : fs₂.node (setup.machine.at source) = some (.file content) := by
    rw [hnode₂, if_neg hne, hfile₁]
  obtain ⟨fs₃, hunlink, hnode₃⟩ := Fs.unlink_file hfile₂
  have happly₁ : (DiskCall.openZip target).apply setup.machine s.world.fs = .ok ((), fs₁) := by
    simp only [DiskCall.apply, htarget, hopen]
    rfl
  have happly₂ : (DiskCall.writeZip target source archiveName).apply setup.machine fs₁ =
      .ok ((), fs₂) := by
    simp only [DiskCall.apply, htarget, hfile₁, hwrite]
    rfl
  have happly₃ : (DiskCall.unlink source).apply setup.machine fs₂ = .ok ((), fs₃) := by
    simp only [DiskCall.apply, hunlink]
  refine .bind (Q := fun _ s' => s'.world = ⟨fs₁, []⟩) (.answeredCall hfaults happly₁ rfl) ?_
  rintro _ s₁ hs₁
  refine .bind (Q := fun _ s' => s'.world = ⟨fs₂, []⟩)
    (.answeredCall (by rw [hs₁]) (by rw [hs₁]; exact happly₂) rfl) ?_
  rintro _ s₂ hs₂
  refine .answeredCall (by rw [hs₂]) (by rw [hs₂]; exact happly₃)
    ⟨rfl, setup.machine.archive archiveName content, fun q => ?_⟩
  rw [hnode₃, hnode₂]
  by_cases hq : q = directory ++ [name]
  · simp [hq]
  · rw [if_neg hq, if_neg hq, hnode₁, if_neg hq]

variable [Interpreter]

theorem nextSequenceBasename_run (hfaults : s.world.faults = [])
    (hdir : s.world.fs.node (setup.machine.at outputDir) = some .dir) :
    Triple (nextSequenceBasename setup outputDir namePrefix) s
      (fun basename s' => s'.world = s.world ∧
        Readable namePrefix (regularFiles setup s.world.fs outputDir) ∧
        basename = numbered namePrefix
          (highestNumber namePrefix (regularFiles setup s.world.fs outputDir) + 1))
      fun _ _ => ¬Readable namePrefix (regularFiles setup s.world.fs outputDir) := by
  have hlisted : (DiskCall.iterdir outputDir).apply setup.machine s.world.fs =
      .ok ((s.world.fs.children (setup.machine.at outputDir)).filter fun name => IsSegment name,
        s.world.fs) := by
    simp only [DiskCall.apply, hdir]
  have hworld : (⟨s.world.fs, []⟩ : Disk) = s.world := by rw [← hfaults]
  refine .bind (Q := fun names s' => s'.world = s.world ∧
    names = (s.world.fs.children (setup.machine.at outputDir)).filter fun name => IsSegment name)
    (.answeredCall hfaults hlisted ⟨hworld, rfl⟩) ?_
  rintro _ s₁ ⟨hs₁, rfl⟩
  refine .look ?_
  rw [hs₁]
  refine .bind (Q := fun highest s' => s'.world = s.world ∧
    maxIndex namePrefix 0 (regularFiles setup s.world.fs outputDir) = .ok highest)
    (.lift (fun _ h => ⟨hs₁, h⟩) fun e herror hreadable => ?_) ?_
  · have hok : maxIndex namePrefix 0 (regularFiles setup s.world.fs outputDir) = .ok _ :=
      maxIndex_ok.mpr ⟨hreadable, rfl⟩
    cases herror.symm.trans hok
  · rintro highest s₂ ⟨hs₂, hhighest⟩
    obtain ⟨hreadable, hmax⟩ := maxIndex_ok.mp hhighest
    rw [Nat.zero_max] at hmax
    exact .pure ⟨hs₂, hreadable, by rw [hmax, numbered]⟩

variable [LawfulDigits]

-- ---------------------------------------------------------------------------
-- The numbers ahead
-- ---------------------------------------------------------------------------

/-- The directory can be read, `m` is its highest number, and none of the next `n` is that of a
directory. -/
structure Sequenced (setup : Setup) (fs : Fs) (outputDir : PurePath) (namePrefix : String)
    (m n : Nat) : Prop where
  readable : Readable namePrefix (regularFiles setup fs outputDir)
  highest : highestNumber namePrefix (regularFiles setup fs outputDir) = m
  clear : ∀ k < n,
    fs.node (setup.machine.at (csvDest outputDir (numbered namePrefix (m + 1 + k)))) ≠ some .dir ∧
    fs.node (setup.machine.at (zipDest outputDir (numbered namePrefix (m + 1 + k)))) ≠ some .dir

/-- A name is that of no regular file if its number is above the highest. -/
theorem not_file_above {fs : Fs} {m n : Nat} {extension : String}
    (hslash : '/' ∉ namePrefix.toList) (hextension : extension ≠ "")
    (hplain : '/' ∉ extension.toList ∧ '.' ∉ extension.toList)
    (hhighest : highestNumber namePrefix (regularFiles setup fs outputDir) = m) (hn : m < n) :
    fs.isFile (setup.machine.at outputDir ++ [numbered namePrefix n ++ "." ++ extension]) =
      false := by
  obtain ⟨hname, hup⟩ := numbered_entry hslash n hplain.1
  rw [Bool.eq_false_iff]
  intro hfile
  have hle := highestNumber_le.mp hhighest.le _ ((mem_regularFiles hname hup).mpr hfile) n
    (sequenceNumber_numbered namePrefix n hextension hplain.2)
  omega

theorem Sequenced.free {fs : Fs} {m n : Nat} (hslash : '/' ∉ namePrefix.toList)
    (h : Sequenced setup fs outputDir namePrefix m n) {k : Nat} (hk : k < n) :
    fs.node (setup.machine.at (csvDest outputDir (numbered namePrefix (m + 1 + k)))) = none ∧
    fs.node (setup.machine.at (zipDest outputDir (numbered namePrefix (m + 1 + k)))) = none := by
  have habove : m < m + 1 + k := by omega
  have hfree {extension : String} (hextension : extension ≠ "")
      (hplain : '/' ∉ extension.toList ∧ '.' ∉ extension.toList)
      (hdir : fs.node (setup.machine.at (outputDir.slash
        (numbered namePrefix (m + 1 + k) ++ "." ++ extension))) ≠ some .dir) :
      fs.node (setup.machine.at (outputDir.slash
        (numbered namePrefix (m + 1 + k) ++ "." ++ extension))) = none := by
    obtain ⟨hname, hup⟩ := numbered_entry hslash (m + 1 + k) hplain.1
    have hfile := not_file_above hslash hextension hplain h.highest habove
    rw [at_slash hname hup] at hdir ⊢
    cases hnode : fs.node (setup.machine.at outputDir ++
        [numbered namePrefix (m + 1 + k) ++ "." ++ extension]) with
    | none => rfl
    | some node =>
      cases node with
      | dir => exact absurd hnode hdir
      | file content => simp [Fs.isFile, hnode] at hfile
  obtain ⟨hcsv, hzip⟩ := h.clear k hk
  rw [csvDest_numbered, zipDest_numbered] at *
  exact ⟨hfree (by decide) (by decide) hcsv, hfree (by decide) (by decide) hzip⟩

/-- The entry a numbered name is of its directory. -/
def outputEntry (setup : Setup) (outputDir : PurePath) (namePrefix : String) (n : Nat)
    (extension : String) : FsPath :=
  setup.machine.at outputDir ++ [numbered namePrefix n ++ "." ++ extension]

theorem Sequenced.next {fs fs' : Fs} {m n : Nat} (hslash : '/' ∉ namePrefix.toList)
    (h : Sequenced setup fs outputDir namePrefix m (n + 1))
    (hfinal : Finalized setup fs fs' pair (outputEntry setup outputDir namePrefix (m + 1) "csv")
      (outputEntry setup outputDir namePrefix (m + 1) "zip")) :
    Sequenced setup fs' outputDir namePrefix (m + 1) n := by
  -- a file of the directory is one of the two, or was there
  have hfiles {name : String} (hfile : fs'.isFile (setup.machine.at outputDir ++ [name]) = true) :
      (name = numbered namePrefix (m + 1) ++ "." ++ "csv" ∨
        name = numbered namePrefix (m + 1) ++ "." ++ "zip") ∨
      fs.isFile (setup.machine.at outputDir ++ [name]) = true := by
    by_cases hcsv : name = numbered namePrefix (m + 1) ++ "." ++ "csv"
    · exact .inl (.inl hcsv)
    by_cases hzip : name = numbered namePrefix (m + 1) ++ "." ++ "zip"
    · exact .inl (.inr hzip)
    · refine .inr ?_
      have hgone : setup.machine.at outputDir ++ [name] ∉ pair.files.map setup.machine.at := by
        intro hmem
        obtain ⟨file, hmem, heq⟩ := List.mem_map.mp hmem
        have hnone := hfinal.gone file hmem
        rw [heq] at hnone
        simp [Fs.isFile, hnone] at hfile
      have hkept := hfinal.kept (setup.machine.at outputDir ++ [name])
        (by simpa [outputEntry] using hcsv) (by simpa [outputEntry] using hzip) hgone
      rw [Fs.isFile, hkept] at hfile
      exact hfile
  have hnumber {name : String} (hname : name = numbered namePrefix (m + 1) ++ "." ++ "csv" ∨
      name = numbered namePrefix (m + 1) ++ "." ++ "zip") :
      sequenceNumber namePrefix name = some (m + 1) := by
    rcases hname with rfl | rfl
    · exact sequenceNumber_numbered namePrefix (m + 1) (by decide) (by decide)
    · exact sequenceNumber_numbered namePrefix (m + 1) (by decide) (by decide)
  refine ⟨?_, ?_, ?_⟩
  · intro name hmem suffix hsuffix
    obtain ⟨hname, hfile⟩ := (mem_regularFiles_iff hsuffix).mp hmem
    rcases hfiles hfile with hnew | hold
    · have hsome := hnumber hnew
      rw [sequenceNumber, hsuffix, Option.bind_some] at hsome
      cases hint : Interpreter.parseInt suffix with
      | none => simp [hint] at hsome
      | some i => rfl
    · exact h.readable name ((mem_regularFiles_iff hsuffix).mpr ⟨hname, hold⟩) suffix hsuffix
  · refine Nat.le_antisymm (highestNumber_le.mpr fun name hmem k hk => ?_) ?_
    · obtain ⟨suffix, hsuffix, -⟩ := Option.bind_eq_some_iff.mp hk
      obtain ⟨hname, hfile⟩ := (mem_regularFiles_iff hsuffix).mp hmem
      rcases hfiles hfile with hnew | hold
      · exact (Option.some.inj (hk.symm.trans (hnumber hnew))).le
      · exact (highestNumber_le.mp h.highest.le name
          ((mem_regularFiles_iff hsuffix).mpr ⟨hname, hold⟩) k hk).trans (Nat.le_succ m)
    · have hplain : '/' ∉ "csv".toList := by decide
      obtain ⟨hname, hup⟩ := numbered_entry hslash (m + 1) hplain
      exact highestNumber_le.mp le_rfl _ ((mem_regularFiles hname hup).mpr hfinal.csv) (m + 1)
        (hnumber (.inl rfl))
  · intro k hk
    obtain ⟨hcsv, hzip⟩ := h.clear (k + 1) (by omega)
    have hindex : m + 1 + (k + 1) = m + 1 + 1 + k := by omega
    rw [hindex] at hcsv hzip
    exact ⟨fun hdir => hcsv (hfinal.dir_before hdir), fun hdir => hzip (hfinal.dir_before hdir)⟩

-- ---------------------------------------------------------------------------
-- The loop
-- ---------------------------------------------------------------------------

omit [Interpreter] [LawfulDigits] in
/-- The pairs that are left are as they were. -/
theorem Batched.rest {s' : PsaWorld} {csvTarget zipTarget : FsPath}
    (h : Batched setup s outputDir (pair :: pairs)) (hfaults : s'.world.faults = [])
    (hcsv : s.world.fs.node csvTarget = none) (hzip : s.world.fs.node zipTarget = none)
    (hfinal : Finalized setup s.world.fs s'.world.fs pair csvTarget zipTarget) :
    Batched setup s' outputDir pairs := by
  have hsplit : batchFiles (pair :: pairs) = pair.files ++ batchFiles pairs := rfl
  have hfiles := h.files
  have hdistinct := h.distinct
  rw [hsplit] at hfiles
  rw [hsplit, List.map_append, List.nodup_append] at hdistinct
  refine ⟨hfaults, ?_, fun file hfile => ?_, hdistinct.2.1⟩
  · have hnot : setup.machine.at outputDir ∉ pair.files.map setup.machine.at := by
      intro hmem
      obtain ⟨file, hmem, heq⟩ := List.mem_map.mp hmem
      have hfile := hfiles file (List.mem_append_left _ hmem)
      simp [isFileAt, heq, Fs.isFile, h.dir] at hfile
    rw [hfinal.kept _ (ne_of_vacant hcsv h.dir) (ne_of_vacant hzip h.dir) hnot, h.dir]
  · have hbefore := hfiles file (List.mem_append_right _ hfile)
    obtain ⟨content, hcontent⟩ := Fs.isFile_iff.mp hbefore
    have hnot : setup.machine.at file ∉ pair.files.map setup.machine.at := fun hmem =>
      hdistinct.2.2 _ hmem _ (List.mem_map_of_mem hfile) rfl
    exact Fs.isFile_iff.mpr ⟨content, by
      rw [hfinal.kept _ (ne_of_vacant hcsv hcontent) (ne_of_vacant hzip hcontent) hnot, hcontent]⟩

/-- The names of `n` pairs from a number on. -/
def createdNames (outputDir : PurePath) (namePrefix : String) (first n : Nat) : List String :=
  (List.range n).flatMap fun k =>
    [(csvDest outputDir (numbered namePrefix (first + k))).str,
      (zipDest outputDir (numbered namePrefix (first + k))).str]

omit [Interpreter] [LawfulDigits] in
theorem createdNames_succ (outputDir : PurePath) (namePrefix : String) (first n : Nat) :
    createdNames outputDir namePrefix first (n + 1) =
      [(csvDest outputDir (numbered namePrefix first)).str,
        (zipDest outputDir (numbered namePrefix first)).str] ++
      createdNames outputDir namePrefix (first + 1) n := by
  rw [createdNames, List.range_succ_eq_map, List.flatMap_cons, List.flatMap_map, createdNames]
  congr 2
  funext k
  have hindex : first + k.succ = first + 1 + k := by omega
  rw [hindex]

theorem finalizePair_run {m n : Nat} (hslash : '/' ∉ namePrefix.toList)
    (h : Batched setup s outputDir (pair :: pairs))
    (hahead : Sequenced setup s.world.fs outputDir namePrefix m (n + 1)) :
    Triple (finalizePair setup outputDir namePrefix pair) s
      (fun created s' => created = [(csvDest outputDir (numbered namePrefix (m + 1))).str,
          (zipDest outputDir (numbered namePrefix (m + 1))).str] ∧
        Batched setup s' outputDir pairs ∧
        Sequenced setup s'.world.fs outputDir namePrefix (m + 1) n)
      fun _ _ => False := by
  have hfiles (file : PurePath) (hfile : file ∈ pair.files) : isFileAt setup s file :=
    h.files file (List.mem_append_left _ hfile)
  obtain ⟨csvContent, hcsv⟩ := Fs.isFile_iff.mp (hfiles pair.csvPath (by simp [Pair.files]))
  obtain ⟨ngbContent, hngb⟩ := Fs.isFile_iff.mp (hfiles pair.ngbPath (by simp [Pair.files]))
  have hpair : setup.machine.at pair.csvPath ≠ setup.machine.at pair.ngbPath := by
    have hdistinct := h.distinct
    simp only [batchFiles, List.flatMap_cons, Pair.files, List.cons_append, List.nil_append,
      List.map_cons, List.nodup_cons, List.mem_cons, not_or] at hdistinct
    exact hdistinct.1.1
  obtain ⟨hcsvFree, hzipFree⟩ := hahead.free hslash (Nat.succ_pos n)
  rw [csvDest_numbered, Nat.add_zero] at hcsvFree
  rw [zipDest_numbered, Nat.add_zero] at hzipFree
  have hentry {extension : String} (hextension : '/' ∉ extension.toList) :
      setup.machine.at (outputDir.slash (numbered namePrefix (m + 1) ++ "." ++ extension)) =
        outputEntry setup outputDir namePrefix (m + 1) extension := by
    obtain ⟨hname, hup⟩ := numbered_entry hslash (m + 1) hextension
    exact at_slash hname hup
  rw [hentry (by decide)] at hcsvFree hzipFree
  have hne : outputEntry setup outputDir namePrefix (m + 1) "csv" ≠
      outputEntry setup outputDir namePrefix (m + 1) "zip" := by
    simp [outputEntry]
  unfold finalizePair
  refine .look ?_
  have hpresent : (!isPresent setup (id s.world.fs) pair.csvPath ||
      !isPresent setup (id s.world.fs) pair.ngbPath) = false := by
    simp [isPresent, Fs.present, hcsv, hngb]
  rw [hpresent, if_neg Bool.false_ne_true]
  refine .bind ((nextSequenceBasename_run h.faults h.dir).mono (fun _ _ h => h)
    fun _ _ hbad => hbad hahead.readable) ?_
  rintro _ s₁ ⟨hs₁, -, rfl⟩
  rw [hahead.highest, csvDest_numbered, zipDest_numbered]
  refine .bind (move_run (by rw [hs₁]; exact h.faults) (by rw [hs₁]; exact h.dir)
    (by rw [hs₁]; exact hcsv) (hentry (by decide)) (by rw [hs₁]; exact hcsvFree)) ?_
  rintro _ s₂ ⟨hfaults₂, hmoved⟩
  rw [hs₁, ← outputEntry] at hmoved
  have hdirNe : setup.machine.at outputDir ≠ setup.machine.at pair.csvPath := by
    intro heq
    rw [← heq, h.dir] at hcsv
    cases hcsv
  have hdir₂ : s₂.world.fs.node (setup.machine.at outputDir) = some .dir := by
    rw [hmoved, if_neg (ne_of_vacant hcsvFree h.dir), if_neg hdirNe, h.dir]
  have hngb₂ : s₂.world.fs.node (setup.machine.at pair.ngbPath) = some (.file ngbContent) := by
    rw [hmoved, if_neg (ne_of_vacant hcsvFree hngb), if_neg hpair.symm, hngb]
  have hzip₂ : s₂.world.fs.node (outputEntry setup outputDir namePrefix (m + 1) "zip") = none := by
    rw [hmoved, if_neg hne.symm, hzipFree, ite_self]
  refine .bind (zipNgb_run hfaults₂ hdir₂ hngb₂ (hentry (by decide)) hzip₂) ?_
  rintro _ s₃ ⟨hfaults₃, archive, hzipped⟩
  rw [← outputEntry] at hzipped
  have hfinal := Finalized.of_steps hcsv hngb hpair hne hcsvFree hzipFree hmoved hzipped
  exact .pure ⟨rfl, h.rest hfaults₃ hcsvFree hzipFree hfinal, hahead.next hslash hfinal⟩

/-- The loop runs to its end, and numbers on. -/
theorem finalizePairs_run {m : Nat} (hslash : '/' ∉ namePrefix.toList) {pairs : List Pair}
    (h : Batched setup s outputDir pairs)
    (hahead : Sequenced setup s.world.fs outputDir namePrefix m pairs.length) :
    Triple (finalizePairs setup outputDir namePrefix pairs) s
      (fun created _ => created = createdNames outputDir namePrefix (m + 1) pairs.length)
      fun _ _ => False := by
  induction pairs generalizing s m with
  | nil => exact .pure rfl
  | cons pair rest ih =>
    refine .bind (finalizePair_run hslash h hahead) ?_
    rintro _ s' ⟨rfl, hrest, hnext⟩
    refine .bind (ih hrest hnext) ?_
    rintro _ s'' rfl
    exact .pure (createdNames_succ ..).symm

omit [LawfulDigits] in
/-- What the loop creates begins with the next name. -/
theorem finalizePairs_head (h : Batched setup s outputDir (pair :: pairs)) :
    Triple (finalizePairs setup outputDir namePrefix (pair :: pairs)) s
      (fun created _ => Readable namePrefix (regularFiles setup s.world.fs outputDir) ∧
        created.head? = some (csvDest outputDir (numbered namePrefix
          (highestNumber namePrefix (regularFiles setup s.world.fs outputDir) + 1))).str)
      fun _ _ => True := by
  have hany {α : Type} {m : PsaM α} {s : PsaWorld} :
      Triple m s (fun _ _ => True) fun _ _ => True :=
    Triple.result.mono (fun _ _ _ => trivial) fun _ _ _ => trivial
  refine .bind (Q := fun created _ =>
    Readable namePrefix (regularFiles setup s.world.fs outputDir) ∧
      created.head? = some (csvDest outputDir (numbered namePrefix
        (highestNumber namePrefix (regularFiles setup s.world.fs outputDir) + 1))).str) ?_ ?_
  · unfold finalizePair
    refine .look ?_
    split
    · exact .raise trivial
    · refine .bind ((nextSequenceBasename_run h.faults h.dir).mono (fun _ _ h => h)
        fun _ _ _ => trivial) ?_
      rintro _ s₁ ⟨-, hreadable, rfl⟩
      exact .bind hany fun _ _ _ => .bind hany fun _ _ _ => .pure ⟨hreadable, rfl⟩
  · rintro created s' ⟨hreadable, hhead⟩
    refine .bind hany fun more _ _ => .pure ⟨hreadable, ?_⟩
    rw [List.head?_append, hhead, Option.some_or]

theorem numbered_injective {n n' : Nat} (h : numbered namePrefix n = numbered namePrefix n') :
    n = n' := by
  have hparts := congrArg rpartitionDash h
  rw [rpartitionDash_numbered, rpartitionDash_numbered] at hparts
  have hint := congrArg Interpreter.parseInt (Prod.mk.inj (Option.some.inj hparts)).2
  rw [LawfulDigits.parseInt_twoDigits, LawfulDigits.parseInt_twoDigits] at hint
  exact Int.ofNat.inj (Option.some.inj hint)

theorem csvDest_injective {n n' : Nat} (hslash : '/' ∉ namePrefix.toList)
    (h : (csvDest outputDir (numbered namePrefix n)).str =
      (csvDest outputDir (numbered namePrefix n')).str) : n = n' := by
  have hpath := PurePath.str_injective h
  rw [csvDest_numbered, csvDest_numbered] at hpath
  have hname := slash_injective (numbered_entry hslash n (by decide)).1
    (numbered_entry hslash n' (by decide)).1 hpath
  have hnumber := congrArg (sequenceNumber namePrefix) hname
  rw [sequenceNumber_numbered _ _ (by decide) (by decide),
    sequenceNumber_numbered _ _ (by decide) (by decide)] at hnumber
  exact Option.some.inj hnumber

-- ---------------------------------------------------------------------------
-- Fresh and consecutive
-- ---------------------------------------------------------------------------

/-- The loop has returned the names of `n` consecutive numbers, a CSV and an archive for each, and
none of them was there. -/
def FreshSequence (setup : Setup) (fs : Fs) (outputDir : PurePath) (namePrefix : String) (n : Nat)
    (result : Except Exn (List String)) : Prop :=
  ∃ first, result = .ok (createdNames outputDir namePrefix first n) ∧
    ((List.range n).map fun k => numbered namePrefix (first + k)).Nodup ∧
    ∀ k < n,
      fs.node (setup.machine.at (csvDest outputDir (numbered namePrefix (first + k)))) = none ∧
      fs.node (setup.machine.at (zipDest outputDir (numbered namePrefix (first + k)))) = none

/-- The names are fresh and consecutive if and only if every number in the directory can be read
and the next ones name no directory in it. -/
theorem sequence_fresh_iff (hslash : '/' ∉ namePrefix.toList) (hpairs : pairs ≠ [])
    (h : Batched setup s outputDir pairs) :
    FreshSequence setup s.world.fs outputDir namePrefix pairs.length
        ((finalizePairs setup outputDir namePrefix pairs).run s).1 ↔
      ∃ highest, Sequenced setup s.world.fs outputDir namePrefix highest pairs.length := by
  constructor
  · rintro ⟨first, hresult, -, hfree⟩
    obtain ⟨pair, rest, rfl⟩ := List.exists_cons_of_ne_nil hpairs
    have hrun : (finalizePairs setup outputDir namePrefix (pair :: rest)).run s =
        (.ok (createdNames outputDir namePrefix first (pair :: rest).length), _) :=
      Prod.ext hresult rfl
    obtain ⟨hreadable, hhead⟩ := (finalizePairs_head h).ok hrun
    rw [List.length_cons, createdNames_succ] at hhead
    obtain rfl := csvDest_injective hslash (Option.some.inj hhead)
    refine ⟨_, hreadable, rfl, fun k hk => ?_⟩
    obtain ⟨hcsv, hzip⟩ := hfree k hk
    rw [hcsv, hzip]
    exact ⟨nofun, nofun⟩
  · rintro ⟨highest, hahead⟩
    rcases (finalizePairs_run hslash h hahead).run with ⟨created, hresult, rfl⟩ | ⟨_, _, hfalse⟩
    · refine ⟨highest + 1, hresult, ?_, fun k hk => hahead.free hslash hk⟩
      refine (List.nodup_range).map fun k k' heq => ?_
      have hindex := numbered_injective heq
      omega
    · exact hfalse.elim

end

-- ---------------------------------------------------------------------------
-- Digits
-- ---------------------------------------------------------------------------

theorem ofDigitChars_twoDigits (n : Nat) : Nat.ofDigitChars 10 (twoDigits n).toList 0 = n := by
  have hdigits : Nat.ofDigitChars 10 (toString n).toList 0 = n := by
    rw [Nat.toString_eq_repr, Nat.toList_repr, Nat.ofDigitChars_ten_toDigits]
  unfold twoDigits
  split
  · rw [String.toList_append, Nat.ofDigitChars_append]
    exact hdigits
  · exact hdigits

/-- The number of a text of ASCII digits. -/
def readDigits (s : String) : Option Int :=
  if s ≠ "" ∧ s.toList.all Char.isDigit = true then some (Nat.ofDigitChars 10 s.toList 0 : Int)
  else none

/-- ASCII digits, and one digit that `int` refuses. -/
@[reducible] def superscriptDigits : Interpreter :=
  { Interpreter.ascii with parseInt := readDigits, isDigit := fun c => c.isDigit || c = '²' }

theorem lawful_superscript : @LawfulDigits superscriptDigits :=
  @LawfulDigits.mk superscriptDigits (fun c hc => Bool.or_eq_true_iff.mpr (.inl hc)) fun n => by
    have hall : (twoDigits n).toList.all Char.isDigit = true :=
      List.all_eq_true.mpr fun c hc => isDigit_twoDigits n hc
    change readDigits (twoDigits n) = some (n : Int)
    rw [readDigits, if_pos ⟨twoDigits_ne_empty n, hall⟩, ofDigitChars_twoDigits]

section
attribute [local instance] superscriptDigits lawful_superscript

/-- A pair in a stage directory of `/w`, which also has some other file. -/
def sequenceState (other : FsPath) : PsaWorld :=
  started { fs := Fs.ofFiles [["w", "s", "a.csv"], ["w", "s", "a.ngb"], other] }

def sequencePairs : List Pair :=
  [⟨PurePath.parse "/w/s/a.csv", PurePath.parse "/w/s/a.ngb", 0⟩]

theorem sequence_batched (other : FsPath)
    (hdir : (sequenceState other).world.fs.node ["w"] = some .dir)
    (hcsv : (sequenceState other).world.fs.isFile ["w", "s", "a.csv"] = true)
    (hngb : (sequenceState other).world.fs.isFile ["w", "s", "a.ngb"] = true) :
    Batched plainSetup (sequenceState other) (PurePath.parse "/w") sequencePairs := by
  refine ⟨rfl, hdir, fun file hfile => ?_, by decide⟩
  rcases List.mem_pair.mp hfile with rfl | rfl
  · exact hcsv
  · exact hngb

/-- Where `P-01.csv` is taken the next pair is `P-02`. -/
theorem sequence_fresh_second :
    FreshSequence plainSetup (sequenceState ["w", "P-01.csv"]).world.fs (PurePath.parse "/w") "P" 1
      ((finalizePairs plainSetup (PurePath.parse "/w") "P" sequencePairs).run
        (sequenceState ["w", "P-01.csv"])).1 := by
  refine (sequence_fresh_iff (by decide) (by decide) (sequence_batched _ (by decide +kernel)
    (by decide +kernel) (by decide +kernel))).mpr ⟨1, ?_⟩
  have hscan : maxIndex "P" 0 (regularFiles plainSetup (sequenceState ["w", "P-01.csv"]).world.fs
      (PurePath.parse "/w")) = .ok 1 := by decide +kernel
  obtain ⟨hreadable, hhighest⟩ := maxIndex_ok.mp hscan
  rw [Nat.zero_max] at hhighest
  refine ⟨hreadable, hhighest.symm, fun k hk => ?_⟩
  obtain rfl : k = 0 := Nat.lt_one_iff.mp hk
  decide +kernel

/-- A number that `int` refuses raises; a directory of the next name takes the CSV in. -/
theorem sequence_not_fresh :
    ¬FreshSequence plainSetup (sequenceState ["w", "P-²"]).world.fs (PurePath.parse "/w") "P" 1
      ((finalizePairs plainSetup (PurePath.parse "/w") "P" sequencePairs).run
        (sequenceState ["w", "P-²"])).1 ∧
    ¬FreshSequence plainSetup (sequenceState ["w", "P-01.csv", "x"]).world.fs
      (PurePath.parse "/w") "P" 1
      ((finalizePairs plainSetup (PurePath.parse "/w") "P" sequencePairs).run
        (sequenceState ["w", "P-01.csv", "x"])).1 := by
  constructor
  · rintro ⟨first, hresult, -⟩
    have hraised : ((finalizePairs plainSetup (PurePath.parse "/w") "P" sequencePairs).run
        (sequenceState ["w", "P-²"])).1.toOption = none := by decide +kernel
    rw [hresult] at hraised
    cases hraised
  · rintro ⟨first, hresult, -, hfree⟩
    have hcreated : ((finalizePairs plainSetup (PurePath.parse "/w") "P" sequencePairs).run
        (sequenceState ["w", "P-01.csv", "x"])).1.toOption =
          some [(csvDest (PurePath.parse "/w") (numbered "P" 1)).str,
            (zipDest (PurePath.parse "/w") (numbered "P" 1)).str] := by decide +kernel
    rw [hresult] at hcreated
    have hhead := (List.cons.inj (Option.some.inj hcreated)).1
    obtain rfl := csvDest_injective (by decide) hhead
    have hdir : (sequenceState ["w", "P-01.csv", "x"]).world.fs.node (plainSetup.machine.at
        (csvDest (PurePath.parse "/w") (numbered "P" 1))) = some .dir := by decide +kernel
    rw [(hfree 0 Nat.one_pos).1] at hdir
    cases hdir

end

end DpostV2.Devices.Psa
