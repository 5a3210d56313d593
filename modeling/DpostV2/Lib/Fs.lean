import Mathlib.Data.List.Dedup
import DpostV2.Lib.PurePath

/-!
# A file system

What is at each path, a path being the names that lead to it from the root.
There is a root, everything else stands in a directory, and finitely many
paths lead anywhere. The calls are those of POSIX: a rename replaces a file, and an
empty directory when it moves one. Symbolic links, permissions and open files
are not modelled, so that `..` is always the parent.
-/

namespace DpostV2

abbrev Bytes := List UInt8

abbrev FsPath := List String

/-- Where the segments of a path lead from a directory. -/
def FsPath.walk (base : FsPath) (segments : List String) : FsPath :=
  segments.foldl (fun p s => if s = ".." then p.dropLast else p ++ [s]) base

/-- Where a path leads, a relative one from `base`. -/
def PurePath.locate (base : FsPath) (p : PurePath) : FsPath :=
  FsPath.walk (if p.root = .relative then base else []) p.parts

def FsPath.text (p : FsPath) : String := "/" ++ "/".intercalate p

inductive Node where
  | file (content : Bytes)
  | dir
  deriving DecidableEq

structure Fs where
  node : FsPath → Option Node
  paths : List FsPath
  root : node [] = some .dir
  parent : ∀ p name, (node (p ++ [name])).isSome → node p = some .dir
  complete : ∀ p, (node p).isSome → p ∈ paths

inductive OsError where
  | notFound
  | exists
  | notADirectory
  | isADirectory
  | notEmpty
  | invalid
  | crossDevice
  deriving DecidableEq, Repr

namespace Fs

/-- One directory, and nothing in it. -/
def empty : Fs where
  node p := if p = [] then some .dir else none
  paths := [[]]
  root := rfl
  parent p name h := by simp at h
  complete p h := by
    by_cases hp : p = []
    · simp [hp]
    · simp [hp] at h

variable (fs : Fs)

def present (p : FsPath) : Bool := (fs.node p).isSome

def isDir (p : FsPath) : Bool := fs.node p == some .dir

def isFile (p : FsPath) : Bool := match fs.node p with
  | some (.file _) => true
  | _ => false

theorem isFile_iff {fs : Fs} {p : FsPath} :
    fs.isFile p = true ↔ ∃ content, fs.node p = some (.file content) := by
  unfold isFile
  split <;> simp_all

/-- The names in a directory. -/
def children (p : FsPath) : List String :=
  ((fs.paths.filter fs.present).filterMap fun q =>
    if q ≠ [] ∧ q.dropLast = p then q.getLast? else none).dedup

theorem mem_children {p : FsPath} {name : String} :
    name ∈ fs.children p ↔ (fs.node (p ++ [name])).isSome := by
  simp only [children, List.mem_dedup, List.mem_filterMap, List.mem_filter]
  constructor
  · rintro ⟨q, ⟨-, hq⟩, hname⟩
    split at hname
    · rename_i h
      have hlast : q.getLast h.1 = name := by
        simpa [List.getLast?_eq_some_getLast h.1] using hname
      rw [← h.2, ← hlast, List.dropLast_append_getLast]
      exact hq
    · cases hname
  · intro h
    exact ⟨p ++ [name], ⟨fs.complete _ h, h⟩, by simp⟩

/-- Only directories have anything below them. -/
theorem dir_of_below {p q : FsPath} (h : (fs.node (p ++ q)).isSome) (hq : q ≠ []) :
    fs.node p = some .dir := by
  induction q using List.reverseRecOn with
  | nil => exact absurd rfl hq
  | append_singleton q name ih =>
    rw [← List.append_assoc] at h
    have hd := fs.parent _ _ h
    by_cases hne : q = []
    · simpa [hne] using hd
    · exact ih (by rw [hd]; rfl) hne

-- ---------------------------------------------------------------------------
-- Changes
-- ---------------------------------------------------------------------------

section
variable {fs}

/-- A file or a directory put at a path; a directory is not overwritten. -/
def put (p : FsPath) (n : Node) (hp : p ≠ []) (hparent : fs.node p.dropLast = some .dir)
    (hdir : fs.node p = some .dir → n = .dir) : Fs where
  node := Function.update fs.node p (some n)
  paths := p :: fs.paths
  root := by rw [Function.update_of_ne (Ne.symm hp)]; exact fs.root
  parent q name h := by
    by_cases heq : q ++ [name] = p
    · have hq : q = p.dropLast := by rw [← heq, List.dropLast_concat]
      have hne : q ≠ p := fun h => by simp [h] at heq
      rw [Function.update_of_ne hne, hq]
      exact hparent
    · rw [Function.update_of_ne heq] at h
      have hq := fs.parent q name h
      by_cases hqp : q = p
      · subst hqp
        rw [Function.update_self, hdir hq]
      · rw [Function.update_of_ne hqp]
        exact hq
  complete q h := by
    by_cases hq : q = p
    · simp [hq]
    · rw [Function.update_of_ne hq] at h
      exact List.mem_cons_of_mem _ (fs.complete q h)

/-- The path taken away. -/
def remove (p : FsPath) (hp : p ≠ []) (hempty : fs.children p = []) : Fs where
  node := Function.update fs.node p none
  paths := fs.paths
  root := by rw [Function.update_of_ne (Ne.symm hp)]; exact fs.root
  parent q name h := by
    have hne : q ++ [name] ≠ p := by
      rintro rfl
      simp at h
    rw [Function.update_of_ne hne] at h
    by_cases hq : q = p
    · have hmem := fs.mem_children.mpr h
      rw [hq, hempty] at hmem
      cases hmem
    · rw [Function.update_of_ne hq]
      exact fs.parent q name h
  complete q h := by
    by_cases hq : q = p
    · simp [hq] at h
    · rw [Function.update_of_ne hq] at h
      exact fs.complete q h

/-- What is at or below `source`, taken to `target`; what was there is gone. -/
def relocate (source target : FsPath) (hst : ¬source <+: target) (hts : ¬target <+: source)
    (hparent : fs.node target.dropLast = some .dir) : Fs where
  node p := if target <+: p then fs.node (source ++ p.drop target.length)
    else if source <+: p then none else fs.node p
  paths := fs.paths ++ fs.paths.map fun p => target ++ p.drop source.length
  root := by
    have ht : ¬target <+: [] := fun h => hts (List.prefix_nil.mp h ▸ List.nil_prefix)
    have hs : ¬source <+: [] := fun h => hst (List.prefix_nil.mp h ▸ List.nil_prefix)
    rw [if_neg ht, if_neg hs, fs.root]
  parent p name h := by
    by_cases ht : target <+: p ++ [name]
    · rw [if_pos ht] at h
      rcases List.prefix_concat_iff.mp ht with heq | htp
      · have hp : p = target.dropLast := by rw [heq, List.dropLast_concat]
        have htp : ¬target <+: p := fun h => by
          have hl := h.length_le
          rw [heq, List.length_append] at hl
          simp at hl
        have hsp : ¬source <+: p := fun h => hst (heq ▸ h.trans (List.prefix_append ..))
        rw [if_neg htp, if_neg hsp, hp]
        exact hparent
      · rw [if_pos htp]
        rw [List.drop_append_of_le_length htp.length_le, ← List.append_assoc] at h
        exact fs.parent _ _ h
    · rw [if_neg ht] at h
      have htp : ¬target <+: p := fun h => ht (h.trans (List.prefix_append ..))
      by_cases hs : source <+: p ++ [name]
      · simp [hs] at h
      · rw [if_neg hs] at h
        have hsp : ¬source <+: p := fun h => hs (h.trans (List.prefix_append ..))
        rw [if_neg htp, if_neg hsp]
        exact fs.parent p name h
  complete p h := by
    by_cases ht : target <+: p
    · rw [if_pos ht] at h
      refine List.mem_append_right _ (List.mem_map.mpr ⟨_, fs.complete _ h, ?_⟩)
      rw [List.drop_left]
      obtain ⟨rest, rfl⟩ := ht
      simp
    · rw [if_neg ht] at h
      by_cases hs : source <+: p
      · simp [hs] at h
      · rw [if_neg hs] at h
        exact List.mem_append_left _ (fs.complete p h)

@[simp] theorem put_node (p : FsPath) (n : Node) (hp : p ≠ [])
    (hparent : fs.node p.dropLast = some .dir) (hdir : fs.node p = some .dir → n = .dir)
    (q : FsPath) : (put p n hp hparent hdir).node q = if q = p then some n else fs.node q :=
  Function.update_apply ..

@[simp] theorem remove_node (p : FsPath) (hp : p ≠ []) (hempty : fs.children p = []) (q : FsPath) :
    (remove p hp hempty).node q = if q = p then none else fs.node q :=
  Function.update_apply ..

end

-- ---------------------------------------------------------------------------
-- Calls
-- ---------------------------------------------------------------------------

/-- Why nothing can be put into what is not a directory. -/
def noDirectory (p : FsPath) : OsError :=
  if p.inits.any fs.isFile then .notADirectory else .notFound

def write (p : FsPath) (content : Bytes) : Except OsError Fs :=
  if hp : p = [] then .error .isADirectory
  else if hparent : fs.node p.dropLast = some .dir then
    if hdir : fs.node p = some .dir then .error .isADirectory
    else .ok (put p (.file content) hp hparent fun h => absurd h hdir)
  else .error (fs.noDirectory p.dropLast)

def mkdir (p : FsPath) : Except OsError Fs :=
  if hnone : fs.node p = none then
    if hparent : fs.node p.dropLast = some .dir then
      .ok (put p .dir (fun hp => by rw [hp, fs.root] at hnone; cases hnone) hparent fun _ => rfl)
    else .error (fs.noDirectory p.dropLast)
  else .error .exists

/-- The directories of a path below one that is there. -/
def mkdirsFrom (fs : Fs) (done : FsPath) : List String → Except OsError Fs
  | [] => .ok fs
  | name :: rest =>
    match fs.node (done ++ [name]) with
    | some .dir => mkdirsFrom fs (done ++ [name]) rest
    | some (.file _) => .error (if rest = [] then .exists else .notADirectory)
    | none => do
      let fs ← fs.mkdir (done ++ [name])
      mkdirsFrom fs (done ++ [name]) rest

/-- `mkdir(parents=True, exist_ok=True)`. -/
def mkdirs (p : FsPath) : Except OsError Fs := mkdirsFrom fs [] p

theorem children_file {fs : Fs} {p : FsPath} {content : Bytes}
    (h : fs.node p = some (.file content)) :
    fs.children p = [] := by
  rw [List.eq_nil_iff_forall_not_mem]
  intro name hname
  rw [fs.parent p name (fs.mem_children.mp hname)] at h
  cases h

def unlink (p : FsPath) : Except OsError Fs :=
  match h : fs.node p with
  | none => .error .notFound
  | some .dir => .error .isADirectory
  | some (.file _) =>
    .ok (remove p (fun hp => by rw [hp, fs.root] at h; cases h) (children_file h))

def rmdir (p : FsPath) : Except OsError Fs :=
  match fs.node p with
  | none => .error .notFound
  | some (.file _) => .error .notADirectory
  | some .dir =>
    if hp : p = [] then .error .invalid
    else if hempty : fs.children p = [] then .ok (remove p hp hempty)
    else .error .notEmpty

/-- `crossDevice` says between which paths the system does not rename. -/
def rename (crossDevice : FsPath → FsPath → Bool) (source target : FsPath) : Except OsError Fs :=
  match fs.node source with
  | none => .error .notFound
  | some n =>
    if hparent : fs.node target.dropLast = some .dir then
      if crossDevice source target then .error .crossDevice
      else if source = target then .ok fs
      else if hst : source <+: target then .error .invalid
      else if hts : target <+: source then .error .notEmpty
      else match n, fs.node target with
        | .file _, some .dir => .error .isADirectory
        | .dir, some (.file _) => .error .notADirectory
        | .dir, some .dir =>
          if fs.children target = [] then .ok (relocate source target hst hts hparent)
          else .error .notEmpty
        | _, _ => .ok (relocate source target hst hts hparent)
    else .error (fs.noDirectory target.dropLast)

/-- What `shutil.move` does where it cannot rename: a copy, and the source removed. -/
def copyMove (source target : FsPath) : Except OsError Fs :=
  if hst : source <+: target then .error .invalid
  else if hts : target <+: source then .error .exists
  else match fs.node source, fs.node target with
    | none, _ => .error .notFound
    | some .dir, some _ => .error .exists
    | some (.file _), some .dir => .error .isADirectory
    | some .dir, none => do
      let fs ← fs.mkdirs target.dropLast
      if hparent : fs.node target.dropLast = some .dir then
        .ok (relocate source target hst hts hparent)
      else .error .notFound
    | some (.file _), _ =>
      if hparent : fs.node target.dropLast = some .dir then
        .ok (relocate source target hst hts hparent)
      else .error (fs.noDirectory target.dropLast)

/-- `shutil.move`: into a directory that is there, else to the path itself. -/
def shutilMove (crossDevice : FsPath → FsPath → Bool) (source target : FsPath) :
    Except OsError (FsPath × Fs) :=
  let moveTo := fun target => match fs.rename crossDevice source target with
    | .ok fs => .ok (target, fs)
    | .error _ => (fs.copyMove source target).map (target, ·)
  if fs.isDir target then
    if source = target then (fs.rename crossDevice source target).map (target, ·)
    else if fs.present (target ++ source.getLast?.toList) then .error .exists
    else moveTo (target ++ source.getLast?.toList)
  else moveTo target

-- ---------------------------------------------------------------------------
-- What the calls leave
-- ---------------------------------------------------------------------------

/-- Nothing is lost on the way from one file system to another but what is at or below `source`,
which stands at `target`. -/
structure Moved (fs fs' : Fs) (source target : FsPath) : Prop where
  arrived : ∀ q, fs'.node (target ++ q) = fs.node (source ++ q)
  left : ∀ p, source <+: p → ¬target <+: p → fs'.node p = none
  kept : ∀ p, ¬source <+: p → ¬target <+: p → fs'.node p = fs.node p
  free : ∀ q, q ≠ [] → fs.node (target ++ q) = none

/-- Directories are there that were not, on the way to a path. -/
structure Extended (fs fs' : Fs) (path : FsPath) : Prop where
  kept : ∀ p n, fs.node p = some n → fs'.node p = some n
  added : ∀ p n, fs.node p = none → fs'.node p = some n → n = .dir ∧ p <+: path

section
variable {fs fs' fs'' : Fs} {crossDevice : FsPath → FsPath → Bool} {source target p : FsPath}

theorem Extended.refl : Extended fs fs p :=
  ⟨fun _ _ h => h, fun p n h h' => by rw [h] at h'; cases h'⟩

theorem Extended.trans (h : Extended fs fs' p) (h' : Extended fs' fs'' p) : Extended fs fs'' p := by
  refine ⟨fun q n hq => h'.kept q n (h.kept q n hq), ?_⟩
  intro q n hq hn
  cases hq' : fs'.node q with
  | none => exact h'.added q n hq' hn
  | some m =>
    have hm := h'.kept q _ hq'
    rw [hn] at hm
    cases hm
    exact h.added q _ hq hq'

/-- No file appears where none was. -/
theorem Extended.file (h : Extended fs fs' path) {content : Bytes}
    (hp : fs'.node p = some (.file content)) : fs.node p = some (.file content) := by
  cases hn : fs.node p with
  | none => cases (h.added p _ hn hp).1
  | some n => rw [← hp, h.kept p n hn]

theorem mkdir_ok (h : fs.mkdir p = .ok fs') : fs.node p = none ∧
    ∀ q, fs'.node q = if q = p then some .dir else fs.node q := by
  unfold mkdir at h
  split at h
  · rename_i hnone
    split at h
    · cases h
      exact ⟨hnone, fun q => put_node ..⟩
    · cases h
  · cases h

theorem mkdir_extended (h : fs.mkdir p = .ok fs') (hp : p <+: path) :
    Extended fs fs' path ∧ fs'.node p = some .dir := by
  obtain ⟨hnone, hnode⟩ := mkdir_ok h
  refine ⟨⟨?_, ?_⟩, by simp [hnode]⟩
  · intro q n hq
    have hne : q ≠ p := by
      rintro rfl
      rw [hnone] at hq
      cases hq
    rw [hnode, if_neg hne, hq]
  · intro q n hq hn
    by_cases heq : q = p
    · rw [hnode, if_pos heq] at hn
      exact ⟨(Option.some.inj hn).symm, heq ▸ hp⟩
    · rw [hnode, if_neg heq, hq] at hn
      cases hn

theorem mkdirsFrom_extended {done : FsPath} {rest : List String} (hd : fs.node done = some .dir)
    (h : mkdirsFrom fs done rest = .ok fs') :
    Extended fs fs' (done ++ rest) ∧ fs'.node (done ++ rest) = some .dir := by
  induction rest generalizing fs done with
  | nil =>
    cases h
    exact ⟨.refl, by simpa using hd⟩
  | cons name rest ih =>
    unfold mkdirsFrom at h
    split at h
    · rename_i hdir
      simpa using ih hdir h
    · cases h
    · obtain ⟨fs₁, h₁, h⟩ := except_bind_ok.mp h
      have hpre : done ++ [name] <+: done ++ name :: rest := by simp
      obtain ⟨he, hdir⟩ := mkdir_extended h₁ hpre
      obtain ⟨he', hdir'⟩ := ih hdir h
      rw [List.append_assoc] at he' hdir'
      exact ⟨he.trans he', hdir'⟩

theorem mkdirs_extended (h : fs.mkdirs p = .ok fs') :
    Extended fs fs' p ∧ fs'.node p = some .dir :=
  mkdirsFrom_extended fs.root h

theorem relocate_moved {hst : ¬source <+: target} {hts : ¬target <+: source}
    {hparent : fs.node target.dropLast = some .dir}
    (hfree : ∀ q, q ≠ [] → fs.node (target ++ q) = none) :
    Moved fs (relocate source target hst hts hparent) source target := by
  refine ⟨?_, ?_, ?_, hfree⟩
  · intro q
    simp [relocate]
  · intro p hs ht
    simp [relocate, hs, ht]
  · intro p hs ht
    simp [relocate, hs, ht]

theorem free_of_not_dir (h : fs.node target ≠ some .dir) :
    ∀ q, q ≠ [] → fs.node (target ++ q) = none := by
  intro q hq
  by_contra hn
  exact h (fs.dir_of_below (Option.isSome_iff_ne_none.mpr hn) hq)

theorem free_of_children (h : fs.children target = []) :
    ∀ q, q ≠ [] → fs.node (target ++ q) = none := by
  intro q hq
  cases q with
  | nil => exact absurd rfl hq
  | cons name q =>
    rw [List.append_cons]
    have hname : fs.node (target ++ [name]) = none := by
      by_contra hn
      have hm := fs.mem_children.mpr (Option.isSome_iff_ne_none.mpr hn)
      rw [h] at hm
      cases hm
    cases q with
    | nil => simpa using hname
    | cons name' q => exact free_of_not_dir (by rw [hname]; simp) _ (by simp)

/-- A rename does nothing, or moves; a file is replaced by a file only. -/
theorem rename_ok (h : fs.rename crossDevice source target = .ok fs') :
    (source = target ∧ fs' = fs) ∨ Moved fs fs' source target := by
  unfold rename at h
  split at h
  · cases h
  · split at h
    · split at h
      · cases h
      · split at h
        · rename_i heq
          exact .inl ⟨heq, (Except.ok.inj h).symm⟩
        · split at h
          · cases h
          · split at h
            · cases h
            · split at h
              · cases h
              · cases h
              · split at h
                · rename_i hempty
                  cases h
                  exact .inr (relocate_moved (free_of_children hempty))
                · cases h
              · rename_i n _ _ _ hfd _ hdd
                cases h
                refine .inr (relocate_moved (free_of_not_dir ?_))
                intro ht
                cases n with
                | file content => exact hfd content rfl ht
                | dir => exact hdd rfl ht
    · cases h

theorem copyMove_ok (h : fs.copyMove source target = .ok fs') :
    ∃ fs₁, Extended fs fs₁ target.dropLast ∧ Moved fs₁ fs' source target := by
  unfold copyMove at h
  split at h
  · cases h
  · rename_i hst
    split at h
    · cases h
    · rename_i hts
      split at h
      · cases h
      · cases h
      · cases h
      · rename_i hnone
        obtain ⟨fs₁, h₁, h⟩ := except_bind_ok.mp h
        obtain ⟨he, -⟩ := mkdirs_extended h₁
        split at h
        · cases h
          refine ⟨fs₁, he, relocate_moved (free_of_not_dir ?_)⟩
          intro ht
          have hle := (he.added _ _ hnone ht).2.length_le
          have hne : target ≠ [] := fun hn => hts (hn ▸ List.nil_prefix)
          have hpos := List.length_pos_iff.mpr hne
          rw [List.length_dropLast] at hle
          omega
        · cases h
      · rename_i hdir
        split at h
        · cases h
          refine ⟨fs, .refl, relocate_moved (free_of_not_dir ?_)⟩
          intro ht
          exact hdir ht
        · cases h

theorem Moved.at_target (h : Moved fs fs' source target) : fs'.node target = fs.node source := by
  simpa using h.arrived []

/-- Only the target itself is replaced. -/
theorem Moved.keeps (h : Moved fs fs' source target) {n : Node} (hp : fs.node p = some n)
    (hs : ¬source <+: p) (ht : p ≠ target) : fs'.node p = some n := by
  by_cases hpre : target <+: p
  · obtain ⟨q, rfl⟩ := hpre
    have hfree := h.free q (by rintro rfl; simp at ht)
    rw [hp] at hfree
    cases hfree
  · rw [h.kept p hs hpre, hp]

theorem Moved.vacant (h : Moved fs fs' source target) (ht : ¬target <+: p)
    (hp : fs.isFile p = false) : fs'.isFile p = false := by
  unfold isFile at hp ⊢
  by_cases hs : source <+: p
  · rw [h.left p hs ht]
  · rw [h.kept p hs ht]
    exact hp

/-- A move takes the source to the target, or into the directory that stands there. -/
theorem shutilMove_ok {real : FsPath}
    (h : fs.shutilMove crossDevice source target = .ok (real, fs')) :
    (real = target ∨ target <+: real ∧ fs.node real = none) ∧
      ((source = real ∧ fs' = fs) ∨
        ∃ fs₁, Extended fs fs₁ real.dropLast ∧ Moved fs₁ fs' source real) := by
  have hto : ∀ {t}, (match fs.rename crossDevice source t with
      | .ok fs => Except.ok (t, fs)
      | .error _ => (fs.copyMove source t).map (t, ·)) = .ok (real, fs') → real = t ∧
        ((source = t ∧ fs' = fs) ∨ ∃ fs₁, Extended fs fs₁ t.dropLast ∧ Moved fs₁ fs' source t) := by
    intro t h
    cases hr : fs.rename crossDevice source t with
    | ok fs₁ =>
      rw [hr] at h
      cases h
      rcases rename_ok hr with h | h
      · exact ⟨rfl, .inl h⟩
      · exact ⟨rfl, .inr ⟨fs, .refl, h⟩⟩
    | error e =>
      rw [hr] at h
      cases hc : fs.copyMove source t with
      | error e =>
        rw [hc] at h
        cases h
      | ok fs₁ =>
        rw [hc] at h
        cases h
        exact ⟨rfl, .inr (copyMove_ok hc)⟩
  unfold shutilMove at h
  simp only at h
  split at h
  · split at h
    · cases hr : fs.rename crossDevice source target with
      | error e =>
        rw [hr] at h
        cases h
      | ok fs₁ =>
        rw [hr] at h
        cases h
        rcases rename_ok hr with h | h
        · exact ⟨.inl rfl, .inl h⟩
        · exact ⟨.inl rfl, .inr ⟨fs, .refl, h⟩⟩
    · split at h
      · cases h
      · rename_i hpresent
        obtain ⟨hreal, hm⟩ := hto h
        have hnone : fs.node (target ++ source.getLast?.toList) = none := by
          simpa [present] using hpresent
        subst hreal
        exact ⟨.inr ⟨List.prefix_append .., hnone⟩, hm⟩
  · obtain ⟨hreal, hm⟩ := hto h
    subst hreal
    exact ⟨.inl rfl, hm⟩

theorem Extended.mono {path'' : FsPath} (h : Extended fs fs' p) (hp : p <+: path'') :
    Extended fs fs' path'' :=
  ⟨h.kept, fun q n hq hn => ⟨(h.added q n hq hn).1, (h.added q n hq hn).2.trans hp⟩⟩

theorem Extended.vacant (h : Extended fs fs' path) (hp : fs.isFile p = false) :
    fs'.isFile p = false := by
  rw [Bool.eq_false_iff, ne_eq, isFile_iff] at hp ⊢
  rintro ⟨content, hcontent⟩
  exact hp ⟨content, h.file hcontent⟩

/-- Nothing is below a file, or below nothing. -/
theorem not_prefix_of_present {n : Node} (hp : fs.node p ≠ some .dir) (hq : fs.node q = some n)
    (hne : p ≠ q) : ¬p <+: q := by
  rintro ⟨rest, rfl⟩
  refine hp (fs.dir_of_below (q := rest) (by rw [hq]; rfl) ?_)
  rintro rfl
  simp at hne

variable (crossDevice target) in
/-- A file moved to where nothing is: it stands there, and everything else as before. -/
theorem shutilMove_file {content : Bytes} (hs : fs.node source = some (.file content))
    (hparent : fs.node target.dropLast = some .dir) (hfree : fs.node target = none) :
    ∃ fs', fs.shutilMove crossDevice source target = .ok (target, fs') ∧
      ∀ q, fs'.node q = if q = target then some (.file content)
        else if q = source then none else fs.node q := by
  have hnd : fs.node source ≠ some .dir := by rw [hs]; nofun
  have hnt : fs.node target ≠ some .dir := by rw [hfree]; nofun
  have hne : target ≠ source := by
    rintro rfl
    rw [hs] at hfree
    cases hfree
  have hts : ¬target <+: source := not_prefix_of_present hnt hs hne
  have hst : ¬source <+: target := by
    intro hpre
    have hinit : source <+: target.dropLast := by
      rcases List.eq_nil_or_concat target with rfl | ⟨init, last, rfl⟩
      · exact hpre
      · rw [List.concat_eq_append] at hpre hne ⊢
        rcases List.prefix_concat_iff.mp hpre with h | h
        · exact absurd h.symm hne
        · rwa [List.dropLast_concat]
    refine not_prefix_of_present hnd hparent ?_ hinit
    rintro rfl
    exact hnd hparent
  have hnode : ∀ q, (relocate source target hst hts hparent).node q =
      if q = target then some (.file content) else if q = source then none else fs.node q := by
    intro q
    by_cases hqt : target <+: q
    · obtain ⟨rest, rfl⟩ := hqt
      by_cases hrest : rest = []
      · subst hrest
        simp [relocate, hs]
      · have hbelow : fs.node (source ++ rest) = none := free_of_not_dir hnd rest hrest
        have hself : fs.node (target ++ rest) = none := free_of_not_dir hnt rest hrest
        have hq : target ++ rest ≠ target := by simpa using hrest
        rw [if_neg hq, hself, ite_self]
        simp [relocate, hbelow]
    · have hq : q ≠ target := by
        rintro rfl
        exact hqt List.prefix_rfl
      rw [if_neg hq]
      by_cases hqs : source <+: q
      · obtain ⟨rest, rfl⟩ := hqs
        have hnone : (relocate source target hst hts hparent).node (source ++ rest) = none := by
          simp [relocate, hqt]
        by_cases hrest : rest = []
        · subst hrest
          simpa using hnone
        · rw [hnone, if_neg (by simpa using hrest), free_of_not_dir hnd rest hrest]
      · have hne' : q ≠ source := by
          rintro rfl
          exact hqs List.prefix_rfl
        rw [if_neg hne']
        simp [relocate, hqt, hqs]
  refine ⟨relocate source target hst hts hparent, ?_, hnode⟩
  have hdir : fs.isDir target = false := by simp [isDir, hfree]
  have hcopy : fs.copyMove source target = .ok (relocate source target hst hts hparent) := by
    simp [copyMove, hst, hts, hs, hparent]
  have hrename : fs.rename crossDevice source target =
      if crossDevice source target then .error .crossDevice
      else .ok (relocate source target hst hts hparent) := by
    simp [rename, hs, hparent, hne.symm, hst, hts, hfree]
  unfold shutilMove
  dsimp only
  rw [if_neg (by rw [hdir]; simp), hrename, hcopy]
  split
  · rename_i h
    split at h
    · cases h
    · cases h
      rfl
  · rfl

end

end Fs

end DpostV2
