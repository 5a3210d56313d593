import DpostV2.Ingestion.MovePlan

/-!
# What a plan leaves behind

A move plan is a first fit of the artifacts of a processor result, each with the
name it gets at the destination. `artifacts_planned_iff` says for which results no
artifact is left out.
-/

namespace DpostV2.Ingestion

def artifacts (result : ProcessorResult) : List String := result.finalPath :: result.forcePaths

/-- Every distinct artifact is the source of one move, and no two moves share a target. -/
structure ArtifactsPlanned (result : ProcessorResult) (plan : List (String × String)) : Prop where
  planned : ∀ path ∈ artifacts result, (plan.map Prod.fst).count (normalizePath path) = 1
  targets : (plan.map Prod.snd).Nodup

/-- Artifacts that are not the same get names that are not the same. -/
structure NamesApart (targetPath : String) (result : ProcessorResult) : Prop where
  final : ∀ f ∈ result.forcePaths, normalizePath f ≠ normalizePath result.finalPath →
    nameTarget targetPath f ≠ normalizePath targetPath
  force : ∀ f ∈ result.forcePaths, ∀ g ∈ result.forcePaths,
    normalizePath f ≠ normalizePath result.finalPath →
    normalizePath g ≠ normalizePath result.finalPath →
    normalizePath f ≠ normalizePath g → nameTarget targetPath f ≠ nameTarget targetPath g

section
variable {targetPath : String} {result : ProcessorResult}

theorem artifactsPlanned_iff :
    ArtifactsPlanned result (firstFit (artifactMoves targetPath result)) ↔
    ∀ move ∈ artifactMoves targetPath result,
      move.1 ∈ (firstFit (artifactMoves targetPath result)).map Prod.fst := by
  have hcount : ∀ source,
    ((firstFit (artifactMoves targetPath result)).map Prod.fst).count source = 1 ↔
      source ∈ (firstFit (artifactMoves targetPath result)).map Prod.fst := fun source =>
    ⟨fun h => List.count_pos_iff.mp (by omega),
      List.count_eq_one_of_mem FirstFit.sources_nodup⟩
  constructor
  · rintro ⟨hplanned, -⟩ move hmove
    rcases List.mem_cons.mp hmove with rfl | hmove
    · exact (hcount _).mp (hplanned _ (.head _))
    · obtain ⟨f, hf, rfl⟩ := List.mem_map.mp hmove
      exact (hcount _).mp (hplanned f (.tail _ hf))
  · intro hcomplete
    refine ⟨fun path hpath => (hcount _).mpr ?_, FirstFit.targets_nodup⟩
    rcases List.mem_cons.mp hpath with rfl | hpath
    · exact hcomplete _ (.head _)
    · exact hcomplete _ (.tail _ (List.mem_map.mpr ⟨path, hpath, rfl⟩))

end

theorem artifacts_planned_iff (targetPath : String) (candidate : Candidate)
    (result : ProcessorResult) :
    (ArtifactsPlanned result (buildMovePlan targetPath candidate (some result)) ↔
      ∃ chosen, StableChoice (artifactMoves targetPath result) chosen) ∧
    ((∀ f ∈ result.forcePaths, NoBackslash f) →
      (ArtifactsPlanned result (buildMovePlan targetPath candidate (some result)) ↔
        NamesApart targetPath result)) := by
  rw [buildMovePlan_firstFit, artifactsPlanned_iff]
  refine ⟨FirstFit.complete_iff, fun hforce => ?_⟩
  refine (FirstFit.complete_iff_of_determined (artifactMoves_determined hforce)).trans ?_
  simp only [List.forall_mem_map]
  exact ⟨fun h => ⟨h.1, h.2⟩, fun h => ⟨h.final, h.force⟩⟩

/-- Two batches hold a file of one name. -/
def sameName : ProcessorResult where
  finalPath := "/in/x.csv"
  datatype := "csv"
  forcePaths := ["/in/a/r.ngb", "/in/b/r.ngb"]
  finalPath_ok := by decide
  datatype_ok := csv_nonblank
  forcePaths_ok := by decide

/-- `/in/b/r.ngb` is moved nowhere. -/
theorem sameName_left_behind : ¬ ArtifactsPlanned sameName
    (buildMovePlan "/out/x.csv" (routedCandidate "/out/x.csv" "/in/x.csv") (some sameName)) := by
  rintro ⟨hplanned, -⟩
  have hplan : buildMovePlan "/out/x.csv" (routedCandidate "/out/x.csv" "/in/x.csv")
    (some sameName) =
      [("/in/x.csv", "/out/x.csv"), ("/in/a/r.ngb", "/out/r.ngb")] := by decide +kernel
  have hnormal : normalizePath "/in/b/r.ngb" = "/in/b/r.ngb" := by decide +kernel
  have hcount := hplanned "/in/b/r.ngb" (by simp [artifacts, sameName])
  rw [hplan, hnormal] at hcount
  exact absurd hcount (by decide)

end DpostV2.Ingestion
