import DpostV2.Ingestion.Safety

/-!
# The moves of an ingestion

`beforePersist` runs the stages up to `persist`. Every move of an ingestion
comes after it, at its place in the plan of the state it hands on
(`IngestionRun.moveAt`).
-/

namespace DpostV2.Ingestion

section
variable [Interpreter] (settings : StageSettings)

/-- The stages one after the other, as long as they continue. -/
def followStages (state : IngestionState) : List String → StageProg (Option IngestionState)
  | [] => return some state
  | stage :: rest =>
    match stageHandlers settings stage with
    | none => return none
    | some handler => do
      let directive ← handler state
      if directive.kind = "continue" then followStages (directive.state.getD state) rest
      else return none

/-- The state an ingestion comes to its persist stage with, if it does. -/
def beforePersist (initialState : IngestionState) : StageProg (Option IngestionState) :=
  followStages settings initialState (stagesBefore "persist")

variable {settings} {initialState : IngestionState}

theorem followStages_append {stages : List String} {state : IngestionState}
    {handler : StageHandler IngestionState Call Call.Res} {d : Directive}
    (h : (followStages settings initialState stages).Ends t (.ok (some state)))
    (hh : stageHandlers settings stage = some handler) (hd : (handler state).Ends u (.ok d))
    (hk : d.kind = "continue") :
    (followStages settings initialState (stages ++ [stage])).Ends (t ++ u)
      (.ok (some (d.state.getD state))) := by
  induction stages generalizing initialState t with
  | nil =>
    obtain ⟨rfl, heq⟩ := h
    cases heq
    rw [List.nil_append, List.nil_append, followStages, hh]
    refine Prog.ends_bind.mpr (.inr ⟨d, u, [], (List.append_nil u).symm, hd, ?_⟩)
    rw [if_pos hk]
    exact ⟨rfl, rfl⟩
  | cons first stages ih =>
    rw [List.cons_append, followStages]
    rw [followStages] at h
    cases hf : stageHandlers settings first with
    | none =>
      rw [hf] at h
      cases h.2
    | some firstHandler =>
      rw [hf] at h
      rcases Prog.ends_bind.mp h with ⟨e, -, he⟩ | ⟨d', t₁, t₂, rfl, h₁, h₂⟩
      · cases he
      · rw [List.append_assoc]
        refine Prog.ends_bind.mpr (.inr ⟨d', t₁, t₂ ++ u, rfl, h₁, ?_⟩)
        split at h₂
        · rename_i hk'
          rw [if_pos hk']
          exact ih h₂
        · cases h₂.2

/-- The pipeline comes to a stage as `followStages` does, when nothing can cancel it. -/
theorem Through.follows {hooks : EngineHooks} (hhooks : hooks.cancellationSignal = false)
    (h : Through settings hooks initialState stage state log t) :
    (followStages settings initialState (stagesBefore stage)).Ends t (.ok (some state)) := by
  induction h with
  | start => exact ⟨rfl, rfl⟩
  | @next _ _ _ _ _ _ c _ _ _ _ hp hh hc hd hk _ hn ih =>
    rw [(table_next hp hn).1]
    have hc : (Prog.done (.ok false) : StageProg Bool).Ends c (.ok false) := by
      simpa [cancelled, ingestionEngine, hhooks] using hc
    obtain ⟨rfl, -⟩ := hc
    rw [List.append_nil]
    exact followStages_append ih hh hd hk

-- ---------------------------------------------------------------------------
-- Where the moves are
-- ---------------------------------------------------------------------------

omit [Interpreter] in
theorem split_after {e : CallStep} {l p t₁ t₂ : List CallStep} (h : l ++ p = t₁ ++ e :: t₂)
    (hl : e ∉ l) : ∃ u, t₁ = l ++ u ∧ p = u ++ e :: t₂ := by
  rcases List.append_eq_append_iff.mp h with ⟨u, rfl, hu⟩ | ⟨u, rfl, hu⟩
  · exact ⟨u, rfl, hu⟩
  · cases u with
    | nil => exact ⟨[], by simp, by simpa using hu.symm⟩
    | cons e' u =>
      obtain ⟨rfl, -⟩ := List.cons.inj hu
      simp at hl

omit [Interpreter] in
theorem split_before {e : CallStep} {p u t₁ t₂ : List CallStep} (h : p ++ u = t₁ ++ e :: t₂)
    (hu : e ∉ u) : ∃ v, p = t₁ ++ e :: v := by
  rcases List.append_eq_append_iff.mp h with ⟨v, rfl, hv⟩ | ⟨v, rfl, hv⟩
  · exact absurd (by simp [hv]) hu
  · cases v with
    | nil =>
      have hv : u = e :: t₂ := by simpa using hv.symm
      exact absurd (by simp [hv]) hu
    | cons e' v =>
      obtain ⟨rfl, -⟩ := List.cons.inj hv
      exact ⟨v, rfl⟩

omit [Interpreter] in
theorem MovesDone.at {plan : List (String × String)} {t t₁ t₂ : List CallStep}
    {r : Call.Res (.moveFile source target)} (h : MovesDone plan t)
    (ht : t = t₁ ++ ⟨.moveFile source target, r⟩ :: t₂) :
    ∃ done rest, plan = done ++ (source, target) :: rest ∧ MovesDone done t₁ := by
  induction h generalizing t₁ with
  | nil => simp at ht
  | @cons s t' r' plan t hr hm ih =>
    cases t₁ with
    | nil =>
      cases ht
      exact ⟨[], plan, rfl, .nil⟩
    | cons e t₁ =>
      obtain ⟨heq, ht'⟩ := List.cons.inj ht
      subst heq
      obtain ⟨done, rest, rfl, hd⟩ := ih ht'
      exact ⟨(s, t') :: done, rest, rfl, .cons hr hd⟩

/-- A move of a persist stage comes after those planned before it. -/
theorem PersistRun.moveAt {plan : List (String × String)} {p t₁ t₂ : List CallStep}
    {r : Call.Res (.moveFile source target)} (h : PersistRun plan p x)
    (hp : p = t₁ ++ ⟨.moveFile source target, r⟩ :: t₂) :
    ∃ done rest, plan = done ++ (source, target) :: rest ∧ MovesDone done t₁ := by
  have hsave : ∀ {m u : List CallStep} {payload : Dict} {r' : Call.Res (.saveRecord payload)},
      MovesDone plan m → Quiet u → p = m ++ ⟨.saveRecord payload, r'⟩ :: u →
      ∃ done rest, plan = done ++ (source, target) :: rest ∧ MovesDone done t₁ := by
    intro m u payload r' hm hu h
    have hnot : (⟨.moveFile source target, r⟩ : CallStep) ∉
      (⟨.saveRecord payload, r'⟩ :: u : List CallStep) := by
      simp only [List.mem_cons, not_or]
      refine ⟨by rintro ⟨⟩, fun h => ?_⟩
      cases hu _ h
    obtain ⟨v, hv⟩ := split_before (h.symm.trans hp) hnot
    exact hm.at hv
  cases h with
  | unstarted => simp at hp
  | @unmoved done source' target' rest t r' u _ hplan ht hr hu hx =>
    have hnot : (⟨.moveFile source target, r⟩ : CallStep) ∉ u := fun h => by cases hu _ h
    rw [List.append_cons] at hp
    obtain ⟨v, hv⟩ := split_before hp hnot
    rcases List.append_eq_append_iff.mp hv with ⟨w, rfl, hw⟩ | ⟨w, rfl, hw⟩
    · cases w with
      | nil =>
        cases List.cons.inj hw |>.1
        exact ⟨done, rest, hplan, by simpa using ht⟩
      | cons e w => simp at hw
    · cases w with
      | nil =>
        cases List.cons.inj hw |>.1
        exact ⟨done, rest, hplan, by simpa using ht⟩
      | cons e w =>
        obtain ⟨rfl, -⟩ := List.cons.inj hw
        obtain ⟨done₁, rest₁, rfl, hd⟩ := ht.at rfl
        exact ⟨done₁, rest₁ ++ (source', target') :: rest, by simp [hplan], hd⟩
  | unsaved ht _ _ hu => exact hsave ht hu rfl
  | interrupted ht => exact hsave ht quiet_nil rfl
  | saved ht => exact hsave ht quiet_nil rfl

/-- A move of an ingestion, with what was planned and done before it. -/
theorem IngestionRun.moveAt {hooks : EngineHooks} {created : Except Exn IngestionState}
    (hhooks : hooks.cancellationSignal = false) {r : Call.Res (.moveFile source target)}
    (h : IngestionRun settings hooks created t)
    (ht : t = t₁ ++ ⟨.moveFile source target, r⟩ :: t₂) :
    ∃ initialState state q m done rest, created = .ok initialState ∧
      (beforePersist settings initialState).Ends q (.ok (some state)) ∧
      plannedMoves state = done ++ (source, target) :: rest ∧ MovesDone done m ∧ t₁ = q ++ m := by
  have hnot : ∀ {u : List CallStep}, Quiet u → (⟨.moveFile source target, r⟩ : CallStep) ∉ u := by
    intro u hu hm
    cases hu _ hm
  have hnil : ∀ {c}, Polled settings hooks c → c = [] := by
    rintro c ⟨y, hc⟩
    have hc : (Prog.done (.ok false) : StageProg Bool).Ends c y := by
      simpa [cancelled, ingestionEngine, hhooks] using hc
    exact hc.1
  cases h with
  | early hq => exact absurd (ht ▸ by simp) (hnot hq)
  | @persisting initialState state log q c p x u hi hr hc hp hu =>
    cases hnil hc
    rw [List.append_nil, List.append_assoc] at ht
    obtain ⟨v, rfl, hv⟩ := split_after ht (hnot (hr.quiet (by decide)))
    obtain ⟨v', hv'⟩ := split_before hv (hnot hu)
    obtain ⟨done, rest, hplan, hm⟩ := hp.moveAt hv'
    exact ⟨_, state, q, v, done, rest, hi, hr.follows hhooks, hplan, hm, rfl⟩
  | @persisted payload initialState state log q c m r' next c' p x u hi hr hc hm hf hs hn
      hc' hp hu =>
    cases hnil hc
    rw [List.append_nil, List.append_assoc] at ht
    obtain ⟨v, rfl, hv⟩ := split_after ht (hnot (hr.quiet (by decide)))
    have hrest : (⟨.moveFile source target, r⟩ : CallStep) ∉
        (⟨.saveRecord payload, .ok r'⟩ :: (c' ++ p ++ u) : List CallStep) := by
      have hpm : Without Call.isMove p := by
        cases hp with
        | unstarted => exact without_nil
        | unkept => exact without_cons.mpr ⟨rfl, without_nil⟩
        | kept hk => exact without_cons.mpr ⟨hk.without fun _ _ => rfl, without_nil⟩
        | synchronized _ _ hq => exact without_cons.mpr ⟨rfl, without_cons.mpr
            ⟨rfl, hq.without isMove_loud⟩⟩
      simp only [List.mem_cons, List.mem_append, hnot hc', hnot hu, or_false, false_or, not_or]
      refine ⟨by rintro ⟨⟩, fun h => ?_⟩
      cases hpm _ h
    obtain ⟨v', hv'⟩ := split_before hv hrest
    obtain ⟨done, rest, hplan, hd⟩ := hm.at hv'
    exact ⟨_, state, q, v, done, rest, hi, hr.follows hhooks, hplan, hd, rfl⟩

end

end DpostV2.Ingestion
