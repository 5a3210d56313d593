import Mathlib.Data.List.Basic
import DpostV2.Lib.Python

/-!
# POSIX paths

`pathlib.PurePath` on POSIX. Parsing drops empty and `.` segments and keeps
`..`; a parsed path carries the proof that none is left, so that `str` loses
nothing (`parse_str`). `normalizePath` is the
`str(PurePath(value)).replace("\\", "/")` that the program compares paths by.
-/

namespace DpostV2

/-- `""`, `"/"`, or the `"//"` that POSIX keeps apart. -/
inductive PathRoot where
  | relative
  | slash
  | doubleSlash
  deriving DecidableEq, Repr

def PathRoot.text : PathRoot → List Char
  | .relative => []
  | .slash => ['/']
  | .doubleSlash => ['/', '/']

def rootOf : List Char → PathRoot
  | '/' :: '/' :: '/' :: _ => .slash
  | '/' :: '/' :: _ => .doubleSlash
  | '/' :: _ => .slash
  | _ => .relative

/-- A name that parsing keeps, with no separator in it. -/
def IsSegment (s : String) : Prop := s ≠ "" ∧ s ≠ "." ∧ '/' ∉ s.toList

instance : DecidablePred IsSegment := fun _ => inferInstanceAs (Decidable (_ ∧ _ ∧ _))

structure PurePath where
  root : PathRoot
  parts : List String
  segments : ∀ s ∈ parts, IsSegment s

@[ext] theorem PurePath.ext {p q : PurePath} (hr : p.root = q.root) (hp : p.parts = q.parts) :
    p = q := by
  cases p; cases q; cases hr; cases hp; rfl

instance : DecidableEq PurePath := fun p q =>
  decidable_of_iff (p.root = q.root ∧ p.parts = q.parts)
    ⟨fun h => PurePath.ext h.1 h.2, fun h => h ▸ ⟨rfl, rfl⟩⟩

def splitSegments (cs : List Char) : List String :=
  ((cs.splitOn '/').map String.ofList).filter fun s => IsSegment s

theorem splitSegments_segments (cs : List Char) : ∀ s ∈ splitSegments cs, IsSegment s := by
  intro s hs
  simpa using (List.mem_filter.mp hs).2

/-- `PurePath(value)`. -/
def PurePath.parse (value : String) : PurePath :=
  { root := rootOf value.toList, parts := splitSegments value.toList,
    segments := splitSegments_segments _ }

/-- `str(path)`. -/
def PurePath.str (p : PurePath) : String :=
  match p.root, p.parts with
  | .relative, [] => "."
  | root, parts => String.ofList (root.text ++ ['/'].intercalate (parts.map String.toList))

def PurePath.name (p : PurePath) : String := p.parts.getLastD ""

def PurePath.parent (p : PurePath) : PurePath :=
  { p with
    parts := p.parts.dropLast
    segments := fun s hs => p.segments s (List.dropLast_subset _ hs) }

/-- `p / q`. -/
def PurePath.join (p q : PurePath) : PurePath :=
  if q.root = .relative then
    { p with
      parts := p.parts ++ q.parts
      segments := by
        intro s hs
        rcases List.mem_append.mp hs with hs | hs
        · exact p.segments s hs
        · exact q.segments s hs }
  else q

/-- `str(value).replace("\\", "/")`. -/
def forwardSlashes (s : String) : String :=
  String.ofList (s.toList.map fun c => if c = '\\' then '/' else c)

def normalizePath (value : String) : String := forwardSlashes (PurePath.parse value).str

-- ---------------------------------------------------------------------------
-- str loses nothing
-- ---------------------------------------------------------------------------

theorem IsSegment.head {s : String} (h : IsSegment s) : ∃ c cs, s.toList = c :: cs ∧ c ≠ '/' := by
  obtain ⟨hne, -, hslash⟩ := h
  cases hs : s.toList with
  | nil => exact absurd (String.toList_eq_nil_iff.mp hs) hne
  | cons c cs =>
    refine ⟨c, cs, rfl, ?_⟩
    rintro rfl
    exact hslash (by simp [hs])

theorem splitSegments_intercalate {parts : List String} (h : ∀ s ∈ parts, IsSegment s) :
    splitSegments (['/'].intercalate (parts.map String.toList)) = parts := by
  cases parts with
  | nil => rfl
  | cons s parts =>
    rw [splitSegments, List.splitOn_intercalate]
    · rw [List.map_map, List.filter_eq_self.mpr]
      · simp [Function.comp_def]
      · intro t ht
        simp only [List.mem_map, Function.comp_apply, String.ofList_toList] at ht
        obtain ⟨u, hu, rfl⟩ := ht
        simpa using h u hu
    · intro l hl
      obtain ⟨t, ht, rfl⟩ := List.mem_map.mp hl
      exact (h t ht).2.2
    · simp

theorem splitSegments_slash (cs : List Char) : splitSegments ('/' :: cs) = splitSegments cs := by
  simp [splitSegments, List.splitOn_cons_eq_if_modifyHead, IsSegment]

theorem splitSegments_root (root : PathRoot) (cs : List Char) :
    splitSegments (root.text ++ cs) = splitSegments cs := by
  cases root with
  | relative => rfl
  | slash => exact splitSegments_slash cs
  | doubleSlash => exact (splitSegments_slash _).trans (splitSegments_slash cs)

theorem rootOf_text {parts : List String} (h : ∀ s ∈ parts, IsSegment s) (root : PathRoot) :
    rootOf (root.text ++ ['/'].intercalate (parts.map String.toList)) = root := by
  cases parts with
  | nil => cases root <;> rfl
  | cons s parts =>
    obtain ⟨c, cs, hs, hc⟩ := (h s (by simp)).head
    have hbody : ∃ rest, ['/'].intercalate ((s :: parts).map String.toList) = c :: rest := by
      cases parts with
      | nil => exact ⟨cs, by simp [hs]⟩
      | cons t parts =>
        exact ⟨_, by rw [List.map_cons, List.map_cons, List.intercalate_cons_cons, hs]; rfl⟩
    obtain ⟨rest, hrest⟩ := hbody
    rw [hrest]
    cases root <;> simp [PathRoot.text, rootOf, hc]

@[simp] theorem PurePath.parse_str (p : PurePath) : PurePath.parse p.str = p := by
  obtain ⟨root, parts, h⟩ := p
  have hgen : PurePath.parse (String.ofList (root.text ++
      ['/'].intercalate (parts.map String.toList))) = ⟨root, parts, h⟩ := by
    ext1
    · simp [PurePath.parse, rootOf_text h]
    · simp [PurePath.parse, splitSegments_root, splitSegments_intercalate h]
  unfold PurePath.str
  split
  · rename_i hr hp
    cases hr
    cases hp
    exact PurePath.ext rfl rfl
  · exact hgen

theorem PurePath.str_injective : Function.Injective PurePath.str := by
  intro p q h
  rw [← PurePath.parse_str p, h, PurePath.parse_str]

-- ---------------------------------------------------------------------------
-- Normalized texts
-- ---------------------------------------------------------------------------

def NoBackslash (s : String) : Prop := '\\' ∉ s.toList

theorem forwardSlashes_eq {s : String} (h : NoBackslash s) : forwardSlashes s = s := by
  have hmap : (s.toList.map fun c => if c = '\\' then '/' else c) = s.toList := by
    refine (List.map_congr_left ?_).trans (List.map_id _)
    intro c hc
    rw [if_neg (by rintro rfl; exact h hc)]
    rfl
  rw [forwardSlashes, hmap, String.ofList_toList]

theorem forwardSlashes_noBackslash (s : String) : NoBackslash (forwardSlashes s) := by
  simp only [NoBackslash, forwardSlashes, String.toList_ofList, List.mem_map, not_exists, not_and]
  intro c _
  split <;> simp_all

theorem mem_intercalate_of_mem {sep c : Char} {ls : List (List Char)} {l : List Char}
    (hl : l ∈ ls) (hc : c ∈ l) : c ∈ [sep].intercalate ls := by
  induction ls with
  | nil => cases hl
  | cons a ls ih =>
    cases ls with
    | nil =>
      obtain rfl := List.mem_singleton.mp hl
      simpa using hc
    | cons b ls =>
      rw [List.intercalate_cons_cons]
      rcases List.mem_cons.mp hl with rfl | hl
      · simp [hc]
      · exact List.mem_append_right _ (ih hl)

theorem of_mem_intercalate {sep c : Char} {ls : List (List Char)} (h : c ∈ [sep].intercalate ls) :
    c = sep ∨ ∃ l ∈ ls, c ∈ l := by
  induction ls with
  | nil => cases h
  | cons a ls ih =>
    cases ls with
    | nil => exact .inr ⟨a, by simp, by simpa using h⟩
    | cons b ls =>
      rw [List.intercalate_cons_cons, List.append_assoc, List.mem_append, List.mem_append] at h
      rcases h with h | h | h
      · exact .inr ⟨a, by simp, h⟩
      · exact .inl (List.mem_singleton.mp h)
      · rcases ih h with h | ⟨l, hl, hc⟩
        · exact .inl h
        · exact .inr ⟨l, List.mem_cons_of_mem _ hl, hc⟩

theorem mem_of_mem_segment {cs : List Char} {s : String} {c : Char} (hs : s ∈ splitSegments cs)
    (hc : c ∈ s.toList) : c ∈ cs := by
  obtain ⟨w, hw, rfl⟩ := List.mem_map.mp (List.mem_filter.mp hs).1
  rw [String.toList_ofList] at hc
  rw [← @List.intercalate_splitOn _ cs _ _ '/']
  exact mem_intercalate_of_mem hw hc

def PurePath.NoBackslash (p : PurePath) : Prop := ∀ s ∈ p.parts, DpostV2.NoBackslash s

theorem PurePath.parse_noBackslash {value : String} (h : DpostV2.NoBackslash value) :
    (PurePath.parse value).NoBackslash :=
  fun _ hs hc => h (mem_of_mem_segment hs hc)

theorem PurePath.NoBackslash.str {p : PurePath} (h : p.NoBackslash) :
    DpostV2.NoBackslash p.str := by
  intro hc
  unfold PurePath.str at hc
  split at hc
  · simp at hc
  · rw [String.toList_ofList, List.mem_append] at hc
    rcases hc with hc | hc
    · cases hr : p.root <;> simp [hr, PathRoot.text] at hc
    · rcases of_mem_intercalate hc with hc | ⟨l, hl, hc⟩
      · cases hc
      · obtain ⟨s, hs, rfl⟩ := List.mem_map.mp hl
        exact h s hs hc

theorem normalizePath_noBackslash (value : String) : NoBackslash (normalizePath value) :=
  forwardSlashes_noBackslash _

/-- Without a backslash, normalizing only parses and prints. -/
theorem normalizePath_eq {value : String} (h : NoBackslash value) :
    normalizePath value = (PurePath.parse value).str :=
  forwardSlashes_eq (PurePath.parse_noBackslash h).str

theorem parse_normalizePath {value : String} (h : NoBackslash value) :
    PurePath.parse (normalizePath value) = PurePath.parse value := by
  rw [normalizePath_eq h, PurePath.parse_str]

/-- One more normalization makes a fixed point: the first may leave segments to drop. -/
theorem normalizePath_twice (value : String) :
    normalizePath (normalizePath (normalizePath value)) = normalizePath (normalizePath value) := by
  have h := normalizePath_noBackslash value
  rw [normalizePath_eq (normalizePath_noBackslash (normalizePath value)), parse_normalizePath h,
    normalizePath_eq h]

end DpostV2
