import Mathlib.Data.List.Induction

/-!
# A state in memory and its copy on disk

A program changes a state in memory and now and then writes a copy of it to disk. A write can
tear the copy, so that it is no longer read; a restart takes the copy up, or starts from a blank
state where there is none or the read fails. What holds of the state in memory survives until an
action that breaks it, or a restart that is not from a copy of a later state (`holds_or_undone`).
-/

namespace DpostV2

inductive StoreEvent (α : Type) where
  | act (a : α)
  | saved
  | torn
  | restarted
  /-- A restart that fails to read the copy. -/
  | unread
  deriving DecidableEq

structure Store (σ : Type) where
  memory : σ
  copy : Option σ

/-- How actions change a state, what a copy keeps of one, and the state of a start without one. -/
structure StoreLaws (σ α : Type) where
  apply : σ → α → σ
  persist : σ → σ
  blank : σ

variable {σ α : Type} (laws : StoreLaws σ α)

def Store.next (s : Store σ) : StoreEvent α → Store σ
  | .act a => { s with memory := laws.apply s.memory a }
  | .saved => { s with copy := some (laws.persist s.memory) }
  | .torn => { s with copy := none }
  | .restarted => { s with memory := s.copy.getD laws.blank }
  | .unread => { s with memory := laws.blank }

def Store.after (s : Store σ) (history : List (StoreEvent α)) : Store σ :=
  history.foldl (Store.next laws) s

/-- Each action is one the state allows when it is taken. -/
def Store.Allows (allowed : σ → α → Prop) : Store σ → List (StoreEvent α) → Prop
  | _, [] => True
  | s, e :: history =>
    (∀ a, e = .act a → allowed s.memory a) ∧ Store.Allows allowed (s.next laws e) history

/-- There is a copy of a state reached in the history, and nothing has torn it. -/
def Durable (history : List (StoreEvent α)) : Prop :=
  ∃ before after, history = before ++ .saved :: after ∧ .torn ∉ after

/-- An action that breaks what held before the history is in it, or a restart that goes back
behind it or reads nothing. -/
def Undone (breaks : α → Prop) (history : List (StoreEvent α)) : Prop :=
  ∃ before e after, history = before ++ e :: after ∧
    ((∃ a, e = .act a ∧ breaks a) ∨ (e = .restarted ∧ ¬ Durable before) ∨ e = .unread)

variable {laws} {s : Store σ} {h h' : List (StoreEvent α)} {e : StoreEvent α}

@[simp] theorem Store.after_nil : s.after laws [] = s := rfl

@[simp] theorem Store.after_append : s.after laws (h ++ h') = (s.after laws h).after laws h' := by
  simp [Store.after]

@[simp] theorem Store.after_cons : s.after laws (e :: h) = (s.next laws e).after laws h := rfl

theorem Store.allows_append {allowed : σ → α → Prop} : s.Allows laws allowed (h ++ h') ↔
    s.Allows laws allowed h ∧ (s.after laws h).Allows laws allowed h' := by
  induction h generalizing s with
  | nil => simp [Store.Allows]
  | cons e h ih => simp [Store.Allows, ih, and_assoc]

/-- What the state allows an action that stands in the middle of a history. -/
theorem Store.Allows.at {allowed : σ → α → Prop} {a : α}
    (hallows : s.Allows laws allowed (h ++ .act a :: h')) : allowed (s.after laws h).memory a :=
  (Store.allows_append.mp hallows).2.1 a rfl

/-- Of a state in memory, and of any copy, holds what every action keeps. -/
theorem Store.after_invariant {P : σ → Prop} {allowed : σ → α → Prop} (hblank : P laws.blank)
    (hpersist : ∀ s, P s → P (laws.persist s))
    (hact : ∀ s a, P s → allowed s a → P (laws.apply s a)) (hmemory : P s.memory)
    (hcopy : ∀ c, s.copy = some c → P c) (hallows : s.Allows laws allowed h) :
    P (s.after laws h).memory ∧ ∀ c, (s.after laws h).copy = some c → P c := by
  induction h generalizing s with
  | nil => exact ⟨hmemory, hcopy⟩
  | cons e h ih =>
    obtain ⟨hallowed, hrest⟩ := hallows
    cases e with
    | act a => exact ih (hact _ a hmemory (hallowed a rfl)) hcopy hrest
    | saved =>
      refine ih hmemory ?_ hrest
      rintro c ⟨⟩
      exact hpersist _ hmemory
    | torn => exact ih hmemory nofun hrest
    | restarted =>
      refine ih ?_ hcopy hrest
      show P (s.copy.getD laws.blank)
      cases hc : s.copy with
      | none => exact hblank
      | some c => exact hcopy c hc
    | unread => exact ih hblank hcopy hrest

-- ---------------------------------------------------------------------------
-- Survival
-- ---------------------------------------------------------------------------

theorem Undone.snoc {breaks : α → Prop} (hundone : Undone breaks h) : Undone breaks (h ++ [e]) := by
  obtain ⟨before, x, after, rfl, hx⟩ := hundone
  exact ⟨before, x, after ++ [e], by simp, hx⟩

theorem not_durable_nil : ¬ Durable ([] : List (StoreEvent α)) := by
  rintro ⟨before, after, heq, -⟩
  simp at heq

theorem durable_snoc : Durable (h ++ [e]) ↔ e = .saved ∨ (Durable h ∧ e ≠ .torn) := by
  constructor
  · rintro ⟨before, after, heq, hafter⟩
    induction after using List.reverseRecOn with
    | nil =>
      obtain ⟨-, hlast⟩ := List.append_inj' heq rfl
      exact .inl (List.cons.inj hlast).1
    | append_singleton after x =>
      rw [← List.cons_append, ← List.append_assoc] at heq
      obtain ⟨rfl, hlast⟩ := List.append_inj' heq rfl
      simp only [List.mem_append, List.mem_singleton, not_or] at hafter
      obtain ⟨hafter, hx⟩ := hafter
      refine .inr ⟨⟨before, after, rfl, hafter⟩, ?_⟩
      rw [(List.cons.inj hlast).1]
      exact Ne.symm hx
  · rintro (rfl | ⟨⟨before, after, rfl, hafter⟩, hne⟩)
    · exact ⟨h, [], rfl, by simp⟩
    · exact ⟨before, after ++ [e], by simp, by simp [hafter, Ne.symm hne]⟩

/-- What holds of the state in memory holds until something breaks it or goes back behind it. -/
theorem holds_or_undone {Q : σ → Prop} {breaks : α → Prop} {allowed : σ → α → Prop}
    (hs : Q s.memory) (hpersist : ∀ s, Q s → Q (laws.persist s))
    (hact : ∀ s a, Q s → allowed s a → ¬ breaks a → Q (laws.apply s a))
    (hallows : s.Allows laws allowed h) : Q (s.after laws h).memory ∨ Undone breaks h := by
  -- a copy of a later state has the property as well
  suffices hboth : (Q (s.after laws h).memory ∧
      (Durable h → ∃ c, (s.after laws h).copy = some c ∧ Q c)) ∨ Undone breaks h from
    hboth.imp_left And.left
  induction h using List.reverseRecOn with
  | nil => exact .inl ⟨hs, fun hdurable => absurd hdurable not_durable_nil⟩
  | append_singleton h e ih =>
    obtain ⟨hbefore, hallowed, -⟩ := Store.allows_append.mp hallows
    rcases ih hbefore with ⟨hmemory, hcopy⟩ | hundone
    · rw [Store.after_append, durable_snoc]
      cases e with
      | act a =>
        by_cases hbreaks : breaks a
        · exact .inr ⟨h, .act a, [], rfl, .inl ⟨a, rfl, hbreaks⟩⟩
        · refine .inl ⟨hact _ a hmemory (hallowed a rfl) hbreaks, ?_⟩
          rintro (hsaved | ⟨hdurable, -⟩)
          · cases hsaved
          · exact hcopy hdurable
      | saved => exact .inl ⟨hmemory, fun _ => ⟨_, rfl, hpersist _ hmemory⟩⟩
      | torn =>
        refine .inl ⟨hmemory, ?_⟩
        rintro (hsaved | ⟨-, hne⟩)
        · cases hsaved
        · exact absurd rfl hne
      | restarted =>
        by_cases hdurable : Durable h
        · obtain ⟨c, hc, hQ⟩ := hcopy hdurable
          have hnext : ((s.after laws h).next laws .restarted).memory = c := by
            simp [Store.next, hc]
          refine .inl ⟨?_, fun _ => ⟨c, hc, hQ⟩⟩
          simpa [hnext] using hQ
        · exact .inr ⟨h, .restarted, [], rfl, .inr (.inl ⟨rfl, hdurable⟩)⟩
      | unread => exact .inr ⟨h, .unread, [], rfl, .inr (.inr rfl)⟩
    · exact .inr hundone.snoc

end DpostV2
