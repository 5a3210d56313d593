import Mathlib.Algebra.Order.Floor.Ring
import DpostV2.Lib.FileName

/-!
# Waiting for a path to settle

`FileStabilityTracker.wait` looks at a path again and again. `wait_cases` says of every sequence
of looks what comes of it: the path is stable with the first look at which it is there in time,
its sentinel is there, and the last snapshots, one more than the cycles asked for, are equal;
looks at which it is missing for a moment do not count. A file that goes away between
`is_file()` and `stat()` ends the wait with an exception.
-/

namespace DpostV2.Watchdog

-- ---------------------------------------------------------------------------
-- Settings
-- ---------------------------------------------------------------------------

structure StabilityOverride where
  suffixes : List String
  folders : List String
  stableCycles : Option Int
  maxWaitSeconds : Option Seconds

structure WatcherSettings where
  maxWaitSeconds : Seconds
  stableCycles : Int
  tempPatterns : List String
  sentinelName : Option String
  reappearWindowSeconds : Seconds
  stabilityOverrides : List StabilityOverride

/-- `int(value)` of a float. -/
def truncate (q : Seconds) : Int := if 0 ≤ q then ⌊q⌋ else ⌈q⌉

section
variable [Interpreter]

def StabilityOverride.matches (override : StabilityOverride) (path : PurePath) : Bool :=
  let lowerName := Interpreter.lower path.name
  override.folders.contains lowerName ||
    override.suffixes.any fun suffix => suffix.toList.isSuffixOf lowerName.toList

/-- The watcher settings of the device, if there is one, for a path. -/
structure Tracker where
  filePath : PurePath
  watcher : Option WatcherSettings

namespace Tracker

/-- `_resolve_override`. -/
def stabilityOverride (tracker : Tracker) : Option StabilityOverride :=
  tracker.watcher.bind fun watcher =>
    watcher.stabilityOverrides.find? fun override => override.matches tracker.filePath

def maxWaitSeconds (tracker : Tracker) : Int :=
  match tracker.stabilityOverride.bind StabilityOverride.maxWaitSeconds with
  | some seconds => truncate seconds
  | none => (tracker.watcher.map fun watcher => truncate watcher.maxWaitSeconds).getD 300

def stableCycles (tracker : Tracker) : Int :=
  match tracker.stabilityOverride.bind StabilityOverride.stableCycles with
  | some cycles => cycles
  | none => (tracker.watcher.map WatcherSettings.stableCycles).getD 3

def reappearWindowSeconds (tracker : Tracker) : Seconds :=
  (tracker.watcher.map WatcherSettings.reappearWindowSeconds).getD 0

end Tracker

-- ---------------------------------------------------------------------------
-- Snapshots
-- ---------------------------------------------------------------------------

/-- A file below a folder. -/
structure Child where
  name : String
  stat : Except Exn (Nat × Seconds)

/-- What there is at the path. -/
inductive PathView where
  | missing
  | file (stat : Except Exn (Nat × Seconds))
  | folder (children : List Child)

inductive Snapshot where
  | missing
  | file (size : Nat) (mtime : Seconds)
  | folder (fileCount totalSize : Nat) (newestMtime : Seconds)
  deriving DecidableEq

def Tracker.isTemporary (tracker : Tracker) (child : Child) : Bool :=
  (tracker.watcher.map WatcherSettings.tempPatterns).getD [] |>.any fun pattern =>
    (Interpreter.lower pattern).toList.isSuffixOf (Interpreter.lower child.name).toList

/-- The loop over the files of a folder: those that are gone by then do not count. -/
def statsOf : List Child → Except Exn (List (Nat × Seconds))
  | [] => .ok []
  | child :: rest =>
    match child.stat with
    | .ok stat => return stat :: (← statsOf rest)
    | .error e => if e.isInstance "FileNotFoundError" then statsOf rest else .error e

/-- `_snapshot`: of a file it asks for the stat without a guard. -/
def Tracker.snapshot (tracker : Tracker) : PathView → Except Exn Snapshot
  | .missing => .ok .missing
  | .file stat => do
    let (size, mtime) ← stat
    return .file size mtime
  | .folder children => do
    let stats ← statsOf (children.filter fun child => !tracker.isTemporary child)
    return .folder stats.length (stats.map Prod.fst).sum ((stats.map Prod.snd).foldl max 0)

-- ---------------------------------------------------------------------------
-- The loop
-- ---------------------------------------------------------------------------

/-- One turn of the loop, with what the disk and the clock tell it. -/
structure Look where
  present : Except Exn Bool
  now : Seconds
  view : PathView
  isDir : Except Exn Bool
  /-- Whether the path has an entry of this name. -/
  hasEntry : String → Except Exn Bool

/-- `_await_sentinel`. -/
def Tracker.awaitsSentinel (tracker : Tracker) (l : Look) : Except Exn Bool :=
  match tracker.watcher with
  | none => .ok false
  | some watcher => do
    if !(← l.isDir) then return false
    match watcher.sentinelName with
    | none => return false
    | some sentinelName =>
      if sentinelName = "" then return false
      return !(← l.hasEntry sentinelName)

structure StabilityOutcome where
  stable : Bool
  reason : Option String
  deriving DecidableEq

inductive WaitState where
  | waiting (lastSnapshot : Snapshot) (stableCycles : Nat)
  | returned (outcome : StabilityOutcome)
  | raised (e : Exn)
  deriving DecidableEq

def StabilityOutcome.settled : StabilityOutcome := ⟨true, none⟩

def StabilityOutcome.disappeared : StabilityOutcome :=
  ⟨false, some "Path disappeared before becoming stable"⟩

def Tracker.timeout (tracker : Tracker) : StabilityOutcome :=
  ⟨false, some ("Timeout (> " ++ toString tracker.maxWaitSeconds ++ "s)")⟩

/-- The clock is read twice before the loop: for the deadline, and for the time to reappear. -/
structure Start where
  deadlineFrom : Seconds
  reappearFrom : Seconds

variable (tracker : Tracker) (start : Start)

def Tracker.deadline : Seconds := start.deadlineFrom + tracker.maxWaitSeconds

/-- A missing path may still reappear. -/
def Tracker.mayReappear (now : Seconds) : Bool :=
  decide (0 < tracker.reappearWindowSeconds) &&
    decide (now < start.reappearFrom + tracker.reappearWindowSeconds)

def Tracker.look (lastSnapshot : Snapshot) (stableCycles : Nat) (l : Look) :
    Except Exn WaitState := do
  if !(← l.present) then
    if tracker.mayReappear start l.now then return .waiting lastSnapshot stableCycles
    else return .returned .disappeared
  else if tracker.deadline start ≤ l.now then return .returned tracker.timeout
  else
    let currentSnapshot ← tracker.snapshot l.view
    if currentSnapshot ≠ lastSnapshot then return .waiting currentSnapshot 0
    else if (stableCycles + 1 : Int) < tracker.stableCycles then
      return .waiting lastSnapshot (stableCycles + 1)
    else if ← tracker.awaitsSentinel l then return .waiting lastSnapshot (stableCycles + 1)
    else return .returned .settled

def WaitState.ofExcept : Except Exn WaitState → WaitState
  | .ok s => s
  | .error e => .raised e

def Tracker.next : WaitState → Look → WaitState
  | .waiting lastSnapshot stableCycles, l =>
    .ofExcept (tracker.look start lastSnapshot stableCycles l)
  | s, _ => s

/-- `wait()`, after so many turns of its loop. -/
def Tracker.wait (first : PathView) (looks : List Look) : WaitState :=
  looks.foldl (tracker.next start)
    (.ofExcept ((tracker.snapshot first).map fun snapshot => .waiting snapshot 0))

-- ---------------------------------------------------------------------------
-- What the snapshots say
-- ---------------------------------------------------------------------------

/-- The snapshot of a look, if one is taken. -/
def Tracker.snapshot? (l : Look) : Option Snapshot :=
  if l.present = .ok true then (tracker.snapshot l.view).toOption else none

/-- The snapshots that are taken, without the looks at which the path is missing. -/
def Tracker.snapshots (first : PathView) (looks : List Look) : List Snapshot :=
  (tracker.snapshot first).toOption.toList ++ looks.filterMap tracker.snapshot?

/-- Two snapshots are equal in any case. -/
def Tracker.cyclesNeeded : Nat := max 1 tracker.stableCycles.toNat

/-- With the snapshot of this look enough of them are equal. -/
def Tracker.Equal (first : PathView) (before : List Look) (l : Look) : Prop :=
  ∃ snapshot, tracker.snapshot l.view = .ok snapshot ∧
    List.replicate (tracker.cyclesNeeded + 1) snapshot <:+ tracker.snapshots first (before ++ [l])

/-- How a look ends the wait. -/
inductive Tracker.Ends (first : PathView) (before : List Look) (l : Look) : WaitState → Prop where
  | unseen {e : Exn} (hpresent : l.present = .error e) : Ends first before l (.raised e)
  | disappeared (hpresent : l.present = .ok false) (hlate : ¬ tracker.mayReappear start l.now) :
    Ends first before l (.returned .disappeared)
  | timeout (hpresent : l.present = .ok true) (hlate : tracker.deadline start ≤ l.now) :
    Ends first before l (.returned tracker.timeout)
  | vanished {e : Exn} (hpresent : l.present = .ok true) (htime : l.now < tracker.deadline start)
    (hview : tracker.snapshot l.view = .error e) : Ends first before l (.raised e)
  | unguarded {e : Exn} (hpresent : l.present = .ok true) (htime : l.now < tracker.deadline start)
    (hequal : tracker.Equal first before l) (hsentinel : tracker.awaitsSentinel l = .error e) :
    Ends first before l (.raised e)
  | settled (hpresent : l.present = .ok true) (htime : l.now < tracker.deadline start)
    (hequal : tracker.Equal first before l) (hsentinel : tracker.awaitsSentinel l = .ok false) :
    Ends first before l (.returned .settled)

/-- At every look there is more to wait for. -/
def Tracker.Waits (first : PathView) (looks : List Look) : Prop :=
  (∃ snapshot, tracker.snapshot first = .ok snapshot) ∧
    ∀ before l after, looks = before ++ l :: after → ∀ s, ¬ tracker.Ends start first before l s

-- ---------------------------------------------------------------------------
-- Runs of equal snapshots
-- ---------------------------------------------------------------------------

/-- The list ends with this snapshot, so many times after the first. -/
def Steady (xs : List Snapshot) (last : Snapshot) (cycles : Nat) : Prop :=
  ∀ k, List.replicate k last <:+ xs ↔ k ≤ cycles + 1

omit [Interpreter] in
theorem replicate_suffix_concat {a : Snapshot} {xs : List Snapshot} {k : Nat} :
    List.replicate (k + 1) a <:+ xs ++ [a] ↔ List.replicate k a <:+ xs := by
  rw [List.replicate_succ', List.suffix_append_self_iff]

omit [Interpreter] in
theorem Steady.same {xs : List Snapshot} {last : Snapshot} {cycles : Nat}
    (h : Steady xs last cycles) : Steady (xs ++ [last]) last (cycles + 1) := by
  intro k
  cases k with
  | zero => simp
  | succ k => rw [replicate_suffix_concat, h k, Nat.add_le_add_iff_right]

omit [Interpreter] in
theorem Steady.changed {xs : List Snapshot} {last a : Snapshot} {cycles : Nat}
    (h : Steady xs last cycles) (hne : a ≠ last) : Steady (xs ++ [a]) a 0 := by
  intro k
  cases k with
  | zero => simp
  | succ k =>
    rw [replicate_suffix_concat, Nat.add_le_add_iff_right]
    cases k with
    | zero => simp
    | succ k =>
      -- what ends with both snapshots would have them equal
      refine ⟨fun hsuffix => ?_, fun hle => absurd hle (by omega)⟩
      obtain ⟨front, rfl⟩ := (h 1).mpr (by omega)
      rw [List.replicate_succ'] at hsuffix
      obtain ⟨more, hmore⟩ := hsuffix
      rw [← List.append_assoc] at hmore
      exact absurd (by simpa using (List.append_inj' hmore rfl).2) hne

-- ---------------------------------------------------------------------------
-- One turn
-- ---------------------------------------------------------------------------

variable {first : PathView} {looks before : List Look} {l : Look}

theorem wait_concat : tracker.wait start first (looks ++ [l]) =
    tracker.next start (tracker.wait start first looks) l := by
  simp [Tracker.wait]

/-- A wait that is over stays so. -/
theorem wait_over (after : List Look)
    (h : ∀ lastSnapshot cycles, tracker.wait start first looks ≠ .waiting lastSnapshot cycles) :
    tracker.wait start first (looks ++ after) = tracker.wait start first looks := by
  rw [Tracker.wait, List.foldl_append, ← Tracker.wait]
  generalize tracker.wait start first looks = s at h
  induction after with
  | nil => rfl
  | cons l after ih =>
    cases s with
    | waiting lastSnapshot cycles => exact absurd rfl (h lastSnapshot cycles)
    | returned outcome => exact ih
    | raised e => exact ih

theorem snapshots_none (h : tracker.snapshot? l = none) :
    tracker.snapshots first (before ++ [l]) = tracker.snapshots first before := by
  simp [Tracker.snapshots, h]

theorem snapshots_some {snapshot : Snapshot} (hpresent : l.present = .ok true)
    (hview : tracker.snapshot l.view = .ok snapshot) : tracker.snapshots first (before ++ [l]) =
      tracker.snapshots first before ++ [snapshot] := by
  have h : tracker.snapshot? l = some snapshot := by
    rw [Tracker.snapshot?, if_pos hpresent, hview]
    rfl
  simp [Tracker.snapshots, h]

/-- The cycles that are counted are enough. -/
theorem cyclesNeeded_le {cycles : Nat} :
    tracker.cyclesNeeded ≤ cycles + 1 ↔ ¬ (cycles + 1 : Int) < tracker.stableCycles := by
  unfold Tracker.cyclesNeeded
  omega

section
variable {lastSnapshot : Snapshot} {cycles : Nat}

theorem equal_iff (hsteady : Steady (tracker.snapshots first before) lastSnapshot cycles)
    {snapshot : Snapshot} (hpresent : l.present = .ok true)
    (hview : tracker.snapshot l.view = .ok snapshot) :
    tracker.Equal first before l ↔
      snapshot = lastSnapshot ∧ ¬ (cycles + 1 : Int) < tracker.stableCycles := by
  constructor
  · rintro ⟨snapshot', hview', hequal⟩
    cases hview.symm.trans hview'
    rw [snapshots_some tracker hpresent hview] at hequal
    by_cases hsame : snapshot = lastSnapshot
    · rw [hsame, hsteady.same] at hequal
      exact ⟨hsame, (cyclesNeeded_le tracker).mp (by omega)⟩
    · rw [hsteady.changed hsame] at hequal
      have hone : 1 ≤ tracker.cyclesNeeded := le_max_left _ _
      omega
  · rintro ⟨rfl, hcycles⟩
    refine ⟨snapshot, hview, ?_⟩
    rw [snapshots_some tracker hpresent hview, hsteady.same]
    exact Nat.add_le_add_right ((cyclesNeeded_le tracker).mpr hcycles) 1

theorem not_ends_missing (hpresent : l.present = .ok false)
    (hreappear : tracker.mayReappear start l.now = true) (s : WaitState) :
    ¬ tracker.Ends start first before l s := by
  intro hends
  cases hends with
  | disappeared _ hlate => exact hlate hreappear
  | unseen hpresent' => cases hpresent.symm.trans hpresent'
  | timeout hpresent' => cases hpresent.symm.trans hpresent'
  | vanished hpresent' => cases hpresent.symm.trans hpresent'
  | unguarded hpresent' => cases hpresent.symm.trans hpresent'
  | settled hpresent' => cases hpresent.symm.trans hpresent'

theorem not_ends {snapshot : Snapshot} (hpresent : l.present = .ok true)
    (htime : l.now < tracker.deadline start) (hview : tracker.snapshot l.view = .ok snapshot)
    (h : tracker.Equal first before l → tracker.awaitsSentinel l = .ok true) (s : WaitState) :
    ¬ tracker.Ends start first before l s := by
  intro hends
  cases hends with
  | unseen hpresent' => cases hpresent.symm.trans hpresent'
  | disappeared hpresent' => cases hpresent.symm.trans hpresent'
  | timeout _ hlate => exact absurd htime (not_lt.mpr hlate)
  | vanished _ _ hview' => cases hview.symm.trans hview'
  | unguarded _ _ hequal hsentinel => cases (h hequal).symm.trans hsentinel
  | settled _ _ hequal hsentinel => cases (h hequal).symm.trans hsentinel

attribute [local simp] bind Except.bind pure Except.pure

/-- A look ends the wait as `Ends` says, or the count of equal snapshots goes on. -/
theorem look_cases (hsteady : Steady (tracker.snapshots first before) lastSnapshot cycles) :
    (∃ lastSnapshot' cycles', tracker.look start lastSnapshot cycles l =
        .ok (.waiting lastSnapshot' cycles') ∧
      Steady (tracker.snapshots first (before ++ [l])) lastSnapshot' cycles' ∧
      ∀ s, ¬ tracker.Ends start first before l s) ∨
    ∃ s, tracker.next start (.waiting lastSnapshot cycles) l = s ∧
      tracker.Ends start first before l s := by
  cases hpresent : l.present with
  | error e =>
    exact .inr ⟨.raised e, by simp [Tracker.next, Tracker.look, hpresent, WaitState.ofExcept],
      .unseen hpresent⟩
  | ok present =>
    cases present with
    | false =>
      by_cases hreappear : tracker.mayReappear start l.now = true
      · refine .inl ⟨lastSnapshot, cycles, by simp [Tracker.look, hpresent, hreappear], ?_,
          not_ends_missing tracker start hpresent hreappear⟩
        rwa [snapshots_none tracker (by simp [Tracker.snapshot?, hpresent])]
      · exact .inr ⟨.returned .disappeared,
          by simp [Tracker.next, Tracker.look, hpresent, hreappear, WaitState.ofExcept],
          .disappeared hpresent hreappear⟩
    | true =>
      by_cases hlate : tracker.deadline start ≤ l.now
      · exact .inr ⟨.returned tracker.timeout,
          by simp [Tracker.next, Tracker.look, hpresent, hlate, WaitState.ofExcept],
          .timeout hpresent hlate⟩
      · have htime : l.now < tracker.deadline start := not_le.mp hlate
        cases hview : tracker.snapshot l.view with
        | error e =>
          exact .inr ⟨.raised e,
            by simp [Tracker.next, Tracker.look, hpresent, hlate, hview, WaitState.ofExcept],
            .vanished hpresent htime hview⟩
        | ok snapshot =>
          have hequal := equal_iff tracker hsteady hpresent hview
          rw [snapshots_some tracker hpresent hview]
          by_cases hsame : snapshot = lastSnapshot
          · subst hsame
            by_cases hcycles : (cycles + 1 : Int) < tracker.stableCycles
            · refine .inl ⟨snapshot, cycles + 1, ?_, hsteady.same, ?_⟩
              · simp [Tracker.look, hpresent, hlate, hview, hcycles]
              · exact not_ends tracker start hpresent htime hview fun h =>
                  absurd hcycles (hequal.mp h).2
            · have hequal := hequal.mpr ⟨rfl, hcycles⟩
              cases hsentinel : tracker.awaitsSentinel l with
              | error e =>
                exact .inr ⟨.raised e, by simp [Tracker.next, Tracker.look, hpresent, hlate, hview,
                  hcycles, hsentinel, WaitState.ofExcept],
                  .unguarded hpresent htime hequal hsentinel⟩
              | ok awaits =>
                cases awaits with
                | false =>
                  exact .inr ⟨.returned .settled, by simp [Tracker.next, Tracker.look, hpresent,
                    hlate, hview, hcycles, hsentinel, WaitState.ofExcept],
                    .settled hpresent htime hequal hsentinel⟩
                | true =>
                  refine .inl ⟨snapshot, cycles + 1, ?_, hsteady.same, ?_⟩
                  · simp [Tracker.look, hpresent, hlate, hview, hcycles, hsentinel]
                  · exact not_ends tracker start hpresent htime hview fun _ => hsentinel
          · refine .inl ⟨snapshot, 0, ?_, hsteady.changed hsame, ?_⟩
            · simp [Tracker.look, hpresent, hlate, hview, hsame]
            · exact not_ends tracker start hpresent htime hview fun h =>
                absurd (hequal.mp h).1 hsame

end

-- ---------------------------------------------------------------------------
-- All looks
-- ---------------------------------------------------------------------------

theorem Tracker.Ends.over {s : WaitState} (h : tracker.Ends start first before l s)
    (lastSnapshot : Snapshot) (cycles : Nat) : s ≠ .waiting lastSnapshot cycles := by
  cases h <;> nofun

theorem Tracker.Waits.init (h : tracker.Waits start first (looks ++ [l])) :
    tracker.Waits start first looks ∧ ∀ s, ¬ tracker.Ends start first looks l s := by
  refine ⟨⟨h.1, fun before l' after heq => ?_⟩, h.2 looks l [] rfl⟩
  exact h.2 before l' (after ++ [l]) (by rw [heq]; simp)

theorem waits_waiting (h : tracker.Waits start first looks) : ∃ lastSnapshot cycles,
    tracker.wait start first looks = .waiting lastSnapshot cycles ∧
      Steady (tracker.snapshots first looks) lastSnapshot cycles := by
  induction looks using List.reverseRecOn with
  | nil =>
    obtain ⟨snapshot, hfirst⟩ := h.1
    refine ⟨snapshot, 0, by simp [Tracker.wait, hfirst, Except.map, WaitState.ofExcept],
      fun k => ?_⟩
    cases k with
    | zero => simp
    | succ k =>
      have h : List.replicate (k + 1) snapshot <:+ [] ++ [snapshot] ↔
          List.replicate k snapshot <:+ [] := replicate_suffix_concat
      simpa [Tracker.snapshots, hfirst, Except.toOption] using h
  | append_singleton looks l ih =>
    obtain ⟨hlooks, hnot⟩ := h.init
    obtain ⟨lastSnapshot, cycles, hwait, hsteady⟩ := ih hlooks
    rcases look_cases tracker start hsteady (l := l) with
      ⟨lastSnapshot', cycles', hlook, hsteady', -⟩ | ⟨s, -, hends⟩
    · refine ⟨lastSnapshot', cycles', ?_, hsteady'⟩
      rw [wait_concat, hwait, Tracker.next, hlook]
      rfl
    · exact absurd hends (hnot s)

/-- There is a first look at which the waiting ends, or none. -/
theorem waits_or_ends {snapshot : Snapshot} (hfirst : tracker.snapshot first = .ok snapshot)
    (looks : List Look) : tracker.Waits start first looks ∨
    ∃ before l after s, looks = before ++ l :: after ∧ tracker.Waits start first before ∧
      tracker.Ends start first before l s := by
  induction looks using List.reverseRecOn with
  | nil => exact .inl ⟨⟨snapshot, hfirst⟩, fun before l after heq => by simp at heq⟩
  | append_singleton looks l ih =>
    rcases ih with hwaits | ⟨before, l', after, s, rfl, hbefore, hends⟩
    · by_cases hends : ∃ s, tracker.Ends start first looks l s
      · obtain ⟨s, hends⟩ := hends
        exact .inr ⟨looks, l, [], s, rfl, hwaits, hends⟩
      · refine .inl ⟨hwaits.1, fun before l' after heq => ?_⟩
        induction after using List.reverseRecOn with
        | nil =>
          obtain ⟨rfl, hlast⟩ := List.append_inj' heq rfl
          obtain rfl := (List.cons.inj hlast).1
          exact not_exists.mp hends
        | append_singleton after x =>
          rw [← List.cons_append, ← List.append_assoc] at heq
          exact hwaits.2 before l' after (List.append_inj' heq rfl).1
    · exact .inr ⟨before, l', after ++ [l], s, by simp, hbefore, hends⟩

/-- What comes of any sequence of looks: the first snapshot fails, the path still waits, or the
first look that ends the waiting says how. -/
theorem wait_cases (looks : List Look) :
    (∃ e, tracker.snapshot first = .error e ∧ tracker.wait start first looks = .raised e) ∨
    (tracker.Waits start first looks ∧
      ∃ lastSnapshot cycles, tracker.wait start first looks = .waiting lastSnapshot cycles) ∨
    ∃ before l after s, looks = before ++ l :: after ∧ tracker.Waits start first before ∧
      tracker.Ends start first before l s ∧ tracker.wait start first looks = s := by
  cases hfirst : tracker.snapshot first with
  | error e =>
    have hover : tracker.wait start first [] = .raised e := by
      simp [Tracker.wait, hfirst, Except.map, WaitState.ofExcept]
    refine .inl ⟨e, rfl, ?_⟩
    rw [← hover, ← List.nil_append looks]
    exact wait_over tracker start looks (by rw [hover]; nofun)
  | ok snapshot =>
    refine .inr ?_
    rcases waits_or_ends tracker start hfirst looks with
      hwaits | ⟨before, l, after, s, rfl, hbefore, hends⟩
    · obtain ⟨lastSnapshot, cycles, hwait, -⟩ := waits_waiting tracker start hwaits
      exact .inl ⟨hwaits, lastSnapshot, cycles, hwait⟩
    · obtain ⟨lastSnapshot, cycles, hwait, hsteady⟩ := waits_waiting tracker start hbefore
      rcases look_cases tracker start hsteady (l := l) with
        ⟨-, -, -, -, hnot⟩ | ⟨s', hnext, hends'⟩
      · exact absurd hends (hnot s)
      · have hthere : tracker.wait start first (before ++ [l]) = s' := by
          rw [wait_concat, hwait, hnext]
        refine .inr ⟨before, l, after, s', rfl, hbefore, hends', ?_⟩
        rw [List.append_cons, wait_over tracker start after (by rw [hthere]; exact hends'.over),
          hthere]

end

end DpostV2.Watchdog
