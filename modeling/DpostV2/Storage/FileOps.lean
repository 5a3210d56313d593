import DpostV2.Lib.Effect
import DpostV2.Lib.Fs

/-!
# The file operations of the persist stage

`LocalFileOpsAdapter.move`: both paths are resolved under the adapter's root,
and the file system does the rest. Nothing looks at what stands at the
target: `move_keeps` says for which files that is no loss, `move_vacant`
where a file can appear.
-/

namespace DpostV2

/-- The adapter with its resolved root, and what it asks the system: the home
directory `~` or `~user` stands for, and between which paths a rename fails with `EXDEV`. -/
structure FileOps where
  root : FsPath
  home : String → Option PurePath
  crossDevice : FsPath → FsPath → Bool

namespace FileOps

def error (cls : List String) (message : String) : Exn :=
  { mro := cls ++ ["FileOpsError", "RuntimeError", "Exception"], message }

def OsError.text : OsError → String
  | .notFound => "No such file or directory"
  | .exists => "File exists"
  | .notADirectory => "Not a directory"
  | .isADirectory => "Is a directory"
  | .notEmpty => "Directory not empty"
  | .invalid => "Invalid argument"
  | .crossDevice => "Invalid cross-device link"

def osError (e : OsError) : Exn := { mro := ["OSError", "Exception"], message := OsError.text e }

/-- `_map_os_error`, for the errors a modelled call can give. -/
def mapOsError (e : OsError) (operation : String) : Exn :=
  error [] (operation ++ " failed: " ++ OsError.text e)

variable (ops : FileOps)

/-- `Path.expanduser`. -/
def expanduser (path : PurePath) : Except Exn PurePath :=
  match path.root, path.parts with
  | .relative, name :: _ =>
    if name.toList.head? = some '~' then
      match ops.home name with
      | none => .error { mro := ["RuntimeError", "Exception"],
                         message := "Could not determine home directory." }
      | some home => .ok (home.join
          { root := .relative, parts := path.parts.tail,
            segments := fun s hs => path.segments s (List.mem_of_mem_tail hs) })
    else .ok path
  | _, _ => .ok path

/-- `_resolve_scoped_path`. -/
def resolveScopedPath (rawPath : String) : Except Exn FsPath :=
  if blank rawPath then .error (error ["FileOpsPathSafetyError"] "path must be a non-empty string")
  else do
    let candidate ← ops.expanduser (PurePath.parse rawPath)
    let resolved := candidate.locate ops.root
    if ops.root <+: resolved then return resolved
    else throw (error ["FileOpsPathSafetyError"]
      ("path escapes adapter root scope: " ++ resolved.text))

/-- A call of the system, which raises what it fails with. -/
def system (f : Fs → Except OsError Fs) (raised : OsError → Exn) : Eff Exn Fs Unit := fun fs =>
  match f fs with
  | .ok fs => (.ok (), fs)
  | .error e => (.error (raised e), fs)

def move (source target : String) : Eff Exn Fs FsPath := do
  let sourcePath ← Eff.lift (ops.resolveScopedPath source)
  let targetPath ← Eff.lift (ops.resolveScopedPath target)
  let fs ← Eff.get
  if !fs.present sourcePath then
    Eff.raise (error ["FileOpsNotFoundError"] ("Source path not found: " ++ sourcePath.text))
  else do
    system (·.mkdirs targetPath.dropLast) osError
    let fs ← Eff.get
    match fs.rename ops.crossDevice sourcePath targetPath with
    | .ok fs => do
      Eff.modify fun _ => fs
      return targetPath
    | .error .crossDevice =>
      match fs.shutilMove ops.crossDevice sourcePath targetPath with
      | .ok (moved, fs) => do
        Eff.modify fun _ => fs
        return moved
      | .error _ => Eff.raise (error ["FileOpsCrossDeviceError"]
          ("Cross-device move failed for " ++ sourcePath.text ++ " -> " ++ targetPath.text))
    | .error e => Eff.raise (mapOsError e "move")

-- ---------------------------------------------------------------------------
-- What a move leaves
-- ---------------------------------------------------------------------------

/-- What `move` can do to the file system, whatever it returns. -/
inductive Effect (source target : FsPath) (fs fs' : Fs) : Prop
  | prepared : Fs.Extended fs fs' target.dropLast → Effect source target fs fs'
  | moved {fs₁ fs₂ real} : Fs.Extended fs fs₁ target.dropLast → Fs.Extended fs₁ fs₂ real.dropLast →
      Fs.Moved fs₂ fs' source real →
      (real = target ∨ target <+: real ∧ fs₁.node real = none) → Effect source target fs fs'

theorem run_system (f : Fs → Except OsError Fs) (raised : OsError → Exn) (fs : Fs) :
    (system f raised).run fs = match f fs with
      | .ok fs => (.ok (), fs)
      | .error e => (.error (raised e), fs) := rfl

theorem move_effect (source target : String) (fs : Fs) :
    ((ops.move source target).run fs).2 = fs ∨ ∃ s t, ops.resolveScopedPath source = .ok s ∧
      ops.resolveScopedPath target = .ok t ∧ Effect s t fs ((ops.move source target).run fs).2 := by
  unfold move
  rw [Eff.run_bind, Eff.run_lift]
  cases hs : ops.resolveScopedPath source with
  | error e => exact .inl rfl
  | ok s =>
    simp only [Eff.run_bind, Eff.run_lift]
    cases ht : ops.resolveScopedPath target with
    | error e => exact .inl rfl
    | ok t =>
      simp only [Eff.run_get]
      split
      · exact .inl rfl
      · simp only [Eff.run_bind, run_system]
        cases hm : fs.mkdirs t.dropLast with
        | error e => exact .inl rfl
        | ok fs₁ =>
          obtain ⟨he, -⟩ := Fs.mkdirs_extended hm
          refine .inr ⟨s, t, rfl, rfl, ?_⟩
          simp only [Eff.run_get]
          split
          · rename_i fs₂ hr
            rcases Fs.rename_ok hr with ⟨-, rfl⟩ | hmoved
            · exact .prepared he
            · exact .moved he .refl hmoved (.inl rfl)
          · split
            · rename_i moved fs₂ hr
              obtain ⟨hreal, ⟨-, rfl⟩ | ⟨fs₃, he', hmoved⟩⟩ := Fs.shutilMove_ok hr
              · exact .prepared he
              · exact .moved he he' hmoved hreal
            · exact .prepared he
          · exact .prepared he

variable {ops}

/-- A file stays that is neither moved along nor in the place of the target. -/
theorem move_keeps {source target : String} {fs : Fs} {p : FsPath} {content : Bytes}
    (hp : fs.node p = some (.file content))
    (hs : ∀ s, ops.resolveScopedPath source = .ok s → ¬s <+: p)
    (ht : ∀ t, ops.resolveScopedPath target = .ok t → p ≠ t) :
    ((ops.move source target).run fs).2.node p = some (.file content) := by
  rcases move_effect ops source target fs with h | ⟨s, t, hst, htt, h⟩
  · rw [h]
    exact hp
  · cases h with
    | prepared he => exact he.kept p _ hp
    | moved he he' hm hreal =>
      have hp₁ := he.kept p _ hp
      refine hm.keeps (he'.kept p _ hp₁) (hs s hst) ?_
      rintro rfl
      rcases hreal with heq | ⟨-, hnone⟩
      · exact ht t htt heq
      · rw [hp₁] at hnone
        cases hnone

/-- Where no file is, a move puts one only at or below its target. -/
theorem move_vacant {source target : String} {fs : Fs} {p : FsPath} (hp : fs.isFile p = false)
    (ht : ∀ t, ops.resolveScopedPath target = .ok t → ¬t <+: p) :
    ((ops.move source target).run fs).2.isFile p = false := by
  have hext : ∀ {fs fs' q}, Fs.Extended fs fs' q → fs.isFile p = false → fs'.isFile p = false := by
    intro fs fs' q h hp
    by_contra hf
    obtain ⟨content, hf⟩ := Fs.isFile_iff.mp (Bool.not_eq_false _ ▸ hf)
    rw [Fs.isFile_iff.mpr ⟨content, h.file hf⟩] at hp
    cases hp
  rcases move_effect ops source target fs with h | ⟨s, t, hst, htt, h⟩
  · rw [h]
    exact hp
  · cases h with
    | prepared he => exact hext he hp
    | moved he he' hm hreal =>
      have hnot : ¬_ <+: p :=
        fun h => ht t htt ((hreal.elim (fun heq => heq ▸ List.prefix_rfl) And.left).trans h)
      exact hm.vacant hnot (hext he' (hext he hp))

end FileOps

end DpostV2
