import Mathlib.Data.List.Induction
import Mathlib.Data.List.Nodup
import Mathlib.Tactic.Push

/-!
# First fit

Pairs of a source and a target, taken in order: a pair is kept unless its source
or its target has been. What is kept is the one `Selection` there is. `complete_iff`
says of which lists every source is kept: of those a `StableChoice` can be made from.
-/

namespace DpostV2

variable {α β : Type} [DecidableEq α] [DecidableEq β]

namespace FirstFit

def add (kept : List (α × β)) (entry : α × β) : List (α × β) :=
  if entry.1 ∈ kept.map Prod.fst ∨ entry.2 ∈ kept.map Prod.snd then kept else kept ++ [entry]

end FirstFit

def firstFit (entries : List (α × β)) : List (α × β) := entries.foldl FirstFit.add []

/-- Entries with a source and a target of their own; every other one comes after a
chosen one that has its source or its target. -/
structure Selection (entries chosen : List (α × β)) : Prop where
  subset : chosen ⊆ entries
  sources : ∀ c ∈ chosen, ∀ c' ∈ chosen, c.1 = c'.1 → c = c'
  targets : ∀ c ∈ chosen, ∀ c' ∈ chosen, c.2 = c'.2 → c = c'
  stable : ∀ before entry after, entries = before ++ entry :: after → entry ∉ chosen →
    ∃ c ∈ chosen, c ∈ before ∧ (c.1 = entry.1 ∨ c.2 = entry.2)

/-- One entry for each source, each with a target of its own, and no other one that
could have been chosen when it came. -/
structure StableChoice (entries chosen : List (α × β)) : Prop
    extends Selection entries chosen where
  complete : ∀ entry ∈ entries, ∃ c ∈ chosen, c.1 = entry.1

namespace FirstFit

variable {entries before : List (α × β)} {entry : α × β}

theorem snoc : firstFit (entries ++ [entry]) = add (firstFit entries) entry := by
  simp [firstFit]

theorem mem_add {kept : List (α × β)} {c : α × β} :
    c ∈ add kept entry ↔ c ∈ kept ∨ c = entry ∧ ∀ c' ∈ kept, c'.1 ≠ entry.1 ∧ c'.2 ≠ entry.2 := by
  unfold add
  split
  · rename_i hseen
    constructor
    · exact .inl
    · rintro (hc | ⟨rfl, hfree⟩)
      · exact hc
      · rcases hseen with hs | ht
        · obtain ⟨c', hc', heq⟩ := List.mem_map.mp hs
          exact absurd heq (hfree c' hc').1
        · obtain ⟨c', hc', heq⟩ := List.mem_map.mp ht
          exact absurd heq (hfree c' hc').2
  · rename_i hnew
    rw [List.mem_append, List.mem_singleton]
    refine or_congr_right (iff_self_and.mpr fun _ c' hc' => ⟨fun heq => ?_, fun heq => ?_⟩)
    · exact hnew (.inl (heq ▸ List.mem_map_of_mem hc'))
    · exact hnew (.inr (heq ▸ List.mem_map_of_mem hc'))

theorem sources_nodup : ((firstFit entries).map Prod.fst).Nodup := by
  induction entries using List.reverseRecOn with
  | nil => exact .nil
  | append_singleton entries entry ih =>
    rw [snoc, add]
    split
    · exact ih
    · rename_i hnew
      rw [List.map_append]
      refine List.nodup_append.mpr ⟨ih, by simp, ?_⟩
      rintro a ha b hb rfl
      exact hnew (.inl (List.mem_singleton.mp hb ▸ ha))

theorem targets_nodup : ((firstFit entries).map Prod.snd).Nodup := by
  induction entries using List.reverseRecOn with
  | nil => exact .nil
  | append_singleton entries entry ih =>
    rw [snoc, add]
    split
    · exact ih
    · rename_i hnew
      rw [List.map_append]
      refine List.nodup_append.mpr ⟨ih, by simp, ?_⟩
      rintro a ha b hb rfl
      exact hnew (.inr (List.mem_singleton.mp hb ▸ ha))

theorem subset : firstFit entries ⊆ entries := by
  induction entries using List.reverseRecOn with
  | nil => exact fun _ h => h
  | append_singleton entries entry ih =>
    rw [snoc]
    intro c hc
    rcases mem_add.mp hc with hc | ⟨rfl, -⟩
    · exact List.mem_append_left _ (ih hc)
    · simp

theorem mono : firstFit before ⊆ firstFit (before ++ entries) := by
  induction entries using List.reverseRecOn with
  | nil => simp
  | append_singleton entries entry ih =>
    rw [← List.append_assoc, snoc]
    exact fun c hc => mem_add.mpr (.inl (ih hc))

/-- The first entry is kept. -/
theorem mem_head : entry ∈ firstFit (entry :: entries) := by
  have hfirst : entry ∈ firstFit [entry] := by simp [firstFit, add]
  exact mono hfirst

/-- What is not kept came after one that is and that has its source or its target. -/
theorem dropped {after : List (α × β)} (h : entry ∉ firstFit (before ++ entry :: after)) :
    ∃ c ∈ firstFit before, c.1 = entry.1 ∨ c.2 = entry.2 := by
  by_contra! hfree
  rw [List.append_cons] at h
  exact h (mono (by rw [snoc, mem_add]; exact .inr ⟨rfl, hfree⟩))

theorem selection : Selection entries (firstFit entries) := by
  refine ⟨subset, ?_, ?_, ?_⟩
  · exact fun c hc c' hc' heq => List.inj_on_of_nodup_map sources_nodup hc hc' heq
  · exact fun c hc c' hc' heq => List.inj_on_of_nodup_map targets_nodup hc hc' heq
  · rintro before entry after rfl hdropped
    obtain ⟨c, hc, hblocks⟩ := dropped hdropped
    exact ⟨c, mono hc, subset hc, hblocks⟩

/-- There is no other selection: entry by entry it chooses what first fit keeps. -/
theorem mem_before {chosen after : List (α × β)} (h : Selection (before ++ after) chosen)
    {c : α × β} : c ∈ firstFit before ↔ c ∈ chosen ∧ c ∈ before := by
  induction before using List.reverseRecOn generalizing after c with
  | nil => simp [firstFit]
  | append_singleton before entry ih =>
    have h' : Selection (before ++ entry :: after) chosen := by simpa using h
    rw [snoc, mem_add, ih h', List.mem_append, List.mem_singleton]
    constructor
    · rintro (⟨hc, hbefore⟩ | ⟨rfl, hfree⟩)
      · exact ⟨hc, .inl hbefore⟩
      · refine ⟨?_, .inr rfl⟩
        by_contra hnot
        obtain ⟨c', hc', hbefore, hblocks⟩ := h'.stable before c after rfl hnot
        obtain ⟨hs, ht⟩ := hfree c' ((ih h').mpr ⟨hc', hbefore⟩)
        exact hblocks.elim hs ht
    · rintro ⟨hc, hbefore | rfl⟩
      · exact .inl ⟨hc, hbefore⟩
      · by_cases hbefore : c ∈ before
        · exact .inl ⟨hc, hbefore⟩
        · refine .inr ⟨rfl, fun c' hc' => ?_⟩
          obtain ⟨hchosen, hbefore'⟩ := (ih h').mp hc'
          refine ⟨fun hs => hbefore ?_, fun ht => hbefore ?_⟩
          · exact h'.sources c' hchosen c hc hs ▸ hbefore'
          · exact h'.targets c' hchosen c hc ht ▸ hbefore'

theorem mem_iff_of_selection {chosen : List (α × β)} (h : Selection entries chosen)
    {c : α × β} : c ∈ firstFit entries ↔ c ∈ chosen := by
  have h' : Selection (entries ++ []) chosen := by simpa using h
  rw [mem_before h', and_iff_left_of_imp (@h.subset c)]

theorem complete_iff : (∀ entry ∈ entries, entry.1 ∈ (firstFit entries).map Prod.fst) ↔
    ∃ chosen, StableChoice entries chosen := by
  constructor
  · intro hcomplete
    refine ⟨firstFit entries, selection, fun entry hentry => ?_⟩
    obtain ⟨c, hc, heq⟩ := List.mem_map.mp (hcomplete entry hentry)
    exact ⟨c, hc, heq⟩
  · rintro ⟨chosen, hstable⟩ entry hentry
    obtain ⟨c, hc, heq⟩ := hstable.complete entry hentry
    rw [← heq]
    exact List.mem_map_of_mem ((mem_iff_of_selection hstable.toSelection).mpr hc)

/-- What has the source of the first entry is not looked at. -/
theorem cons_filter : firstFit (entry :: entries) =
    firstFit (entry :: entries.filter fun e => decide (e.1 ≠ entry.1)) := by
  induction entries using List.reverseRecOn with
  | nil => rfl
  | append_singleton entries e ih =>
    rw [List.filter_append, ← List.cons_append, ← List.cons_append, snoc, ih]
    by_cases hsame : e.1 = entry.1
    · have hkept : entry ∈ firstFit (entry :: entries.filter fun e => decide (e.1 ≠ entry.1)) :=
        mem_head
      have hseen : e.1 ∈ (firstFit (entry :: entries.filter fun e => decide (e.1 ≠ entry.1))).map
          Prod.fst := by
        rw [hsame]
        exact List.mem_map_of_mem hkept
      rw [List.filter_cons_of_neg (by simpa using hsame), List.filter_nil, List.append_nil, add,
        if_pos (.inl hseen)]
    · rw [List.filter_cons_of_pos (by simpa using hsame), List.filter_nil, snoc]

omit [DecidableEq α] [DecidableEq β] in
theorem stable_iff_of_determined
    (h : ∀ entry ∈ entries, ∀ entry' ∈ entries, entry.1 = entry'.1 → entry = entry') :
    (∃ chosen, StableChoice entries chosen) ↔
      ∀ entry ∈ entries, ∀ entry' ∈ entries, entry.2 = entry'.2 → entry = entry' := by
  constructor
  · rintro ⟨chosen, hstable⟩ entry hentry entry' hentry' heq
    obtain ⟨c, hc, hs⟩ := hstable.complete entry hentry
    obtain ⟨c', hc', hs'⟩ := hstable.complete entry' hentry'
    have hsame : c = entry := h c (hstable.subset hc) entry hentry hs
    have hsame' : c' = entry' := h c' (hstable.subset hc') entry' hentry' hs'
    subst hsame hsame'
    exact hstable.targets c hc c' hc' heq
  · intro hdistinct
    refine ⟨entries, ⟨List.Subset.refl _, h, hdistinct, ?_⟩, fun e he => ⟨e, he, rfl⟩⟩
    rintro before entry after rfl hnot
    simp at hnot

/-- Where the source says the target, but for the first entry, no target is missed. -/
theorem mem_targets_of_determined {t : β}
    (h : ∀ e ∈ entries, ∀ e' ∈ entries, e.1 = e'.1 → e = e') :
    t ∈ (firstFit (entry :: entries)).map Prod.snd ↔
      t = entry.2 ∨ ∃ e ∈ entries, e.1 ≠ entry.1 ∧ e.2 = t := by
  have hfirst : entry ∈ firstFit (entry :: entries) := mem_head
  constructor
  · intro ht
    obtain ⟨e, he, rfl⟩ := List.mem_map.mp ht
    by_cases hsame : e.1 = entry.1
    · exact .inl (by rw [selection.sources e he entry hfirst hsame])
    · rcases List.mem_cons.mp (subset he) with rfl | hentries
      · exact absurd rfl hsame
      · exact .inr ⟨e, hentries, hsame, rfl⟩
  · rintro (rfl | ⟨e, he, hne, rfl⟩)
    · exact List.mem_map_of_mem hfirst
    · by_cases hkept : e ∈ firstFit (entry :: entries)
      · exact List.mem_map_of_mem hkept
      · obtain ⟨before, after, rfl⟩ := List.append_of_mem he
        obtain ⟨c, hc, hbefore, hs | ht⟩ := selection.stable (entry :: before) e after rfl hkept
        · -- the one that has its source has its target too
          rcases List.mem_cons.mp hbefore with rfl | hbefore
          · exact absurd hs.symm hne
          · exact absurd (h c (List.mem_append_left _ hbefore) e he hs ▸ hc) hkept
        · exact ht ▸ List.mem_map_of_mem hc

/-- Where the source says the target, but for the first entry: other sources, other targets. -/
theorem complete_iff_of_determined
    (h : ∀ e ∈ entries, ∀ e' ∈ entries, e.1 = e'.1 → e = e') :
    (∀ e ∈ entry :: entries, e.1 ∈ (firstFit (entry :: entries)).map Prod.fst) ↔
      (∀ e ∈ entries, e.1 ≠ entry.1 → e.2 ≠ entry.2) ∧
        ∀ e ∈ entries, ∀ e' ∈ entries, e.1 ≠ entry.1 → e'.1 ≠ entry.1 → e.1 ≠ e'.1 →
          e.2 ≠ e'.2 := by
  have hrest : ∀ e, e ∈ entries.filter (fun e => decide (e.1 ≠ entry.1)) ↔
      e ∈ entries ∧ e.1 ≠ entry.1 := by simp
  have hfirst : entry ∈ firstFit (entry :: entries) := mem_head
  have hcomplete : (∀ e ∈ entry :: entries, e.1 ∈ (firstFit (entry :: entries)).map Prod.fst) ↔
      ∀ e ∈ entry :: entries.filter (fun e => decide (e.1 ≠ entry.1)), e.1 ∈
        (firstFit (entry :: entries.filter fun e => decide (e.1 ≠ entry.1))).map Prod.fst := by
    rw [← cons_filter]
    simp only [List.forall_mem_cons, hrest]
    refine and_congr_right fun _ => ⟨fun hall e he => hall e he.1, fun hall e he => ?_⟩
    by_cases hsame : e.1 = entry.1
    · exact hsame ▸ List.mem_map_of_mem hfirst
    · exact hall e ⟨he, hsame⟩
  have hdetermined : ∀ e ∈ entry :: entries.filter (fun e => decide (e.1 ≠ entry.1)),
      ∀ e' ∈ entry :: entries.filter (fun e => decide (e.1 ≠ entry.1)), e.1 = e'.1 → e = e' := by
    intro e he e' he' heq
    rcases List.mem_cons.mp he with rfl | he
    · rcases List.mem_cons.mp he' with rfl | he'
      · rfl
      · exact absurd heq.symm ((hrest e').mp he').2
    · rcases List.mem_cons.mp he' with rfl | he'
      · exact absurd heq ((hrest e).mp he).2
      · exact h e ((hrest e).mp he).1 e' ((hrest e').mp he').1 heq
  rw [hcomplete, complete_iff, stable_iff_of_determined hdetermined]
  constructor
  · intro hdistinct
    refine ⟨fun e he hne heq => hne ?_, fun e he e' he' hne hne' hsources heq => hsources ?_⟩
    · rw [hdistinct e (.tail _ ((hrest e).mpr ⟨he, hne⟩)) entry (.head _) heq]
    · rw [hdistinct e (.tail _ ((hrest e).mpr ⟨he, hne⟩)) e'
        (.tail _ ((hrest e').mpr ⟨he', hne'⟩)) heq]
  · rintro ⟨hfirst, hothers⟩ e he e' he' heq
    refine hdetermined e he e' he' ?_
    by_contra hsources
    rcases List.mem_cons.mp he with rfl | he
    · rcases List.mem_cons.mp he' with rfl | he'
      · exact hsources rfl
      · exact hfirst e' ((hrest e').mp he').1 (Ne.symm hsources) heq.symm
    · rcases List.mem_cons.mp he' with rfl | he'
      · exact hfirst e ((hrest e).mp he).1 hsources heq
      · exact hothers e ((hrest e).mp he).1 e' ((hrest e').mp he').1 ((hrest e).mp he).2
          ((hrest e').mp he').2 hsources heq

end FirstFit

end DpostV2
