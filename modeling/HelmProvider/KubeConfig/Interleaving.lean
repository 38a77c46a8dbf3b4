/-
# `ToRawKubeConfigLoader` under concurrent callers

Goroutines may call `ToRawKubeConfigLoader` on one `KubeConfig` at the same time, directly
or through `ToRESTConfig`, `ToDiscoveryClient` and `ToRESTMapper`, which add only steps of
their own goroutine after the call returns. Each call takes `k.lock`, tests
`clientConfig`, constructs and stores when it is nil, reads the result, and releases the
lock through the deferred `Unlock` (lines 61-72). A run is any interleaving of the steps
of any number of goroutines: each event names the goroutine that moves. The outcome of a
construction is left free, so a run covers every loader, every nil and every panic
`toRawKubeConfigLoader` can produce, each construction giving a loader of its own.

`Inv` records who holds the lock and what the goroutines inside it rely on. Every step
keeps it, so every reachable state has it, and the lock's guarantees follow from it. The
lock cannot wedge either: its holder leaves it within four of its own steps whatever the
others do, and while a goroutine waits, the holder moves at each of its steps, or, with the
lock free, the waiting goroutine takes it.
The mutex is not fair, so a waiting goroutine may be overtaken; nothing here says
otherwise. A single goroutine running alone does what the sequential
`ToRawKubeConfigLoader` does.
-/

import HelmProvider.KubeConfig.Getter

namespace HelmProvider.Interleaving

/-- Where a goroutine is in `ToRawKubeConfigLoader`. -/
inductive Pc (L : Type) where
  /-- Not in a call. -/
  | idle
  /-- At `k.lock.Lock()`, waiting while the lock is held. -/
  | lock
  /-- Holding the lock, at `if k.clientConfig == nil`. -/
  | check
  /-- Holding the lock, running `k.toRawKubeConfigLoader()`. -/
  | build
  /-- Holding the lock, at `return k.clientConfig`. -/
  | read
  /-- Holding the lock with its result read; the deferred `Unlock` is next. -/
  | unlock (result : Option L)
  /-- The call returned `result`. -/
  | done (result : Option L)
  /-- The construction panicked; the deferred `Unlock` ran as the panic left. -/
  | panicked (p : Panic)
  deriving DecidableEq

variable {L : Type}

/-- The goroutine is between `Lock` and the deferred `Unlock`. -/
def Pc.holdsLock : Pc L → Bool
  | .check | .build | .read | .unlock _ => true
  | _ => false

/-- What the goroutines share, `clientConfig` and `lock` of one `KubeConfig`, and where
each goroutine is. -/
structure State (L : Type) where
  clientConfig : Option L
  locked : Bool
  pc : Nat → Pc L

/-- One step of `goroutine`. When the step ends a construction, `result` is what
`toRawKubeConfigLoader` gave; other steps ignore it. -/
structure Event (L : Type) where
  goroutine : Nat
  result : Except Panic (Option L)

/-- A fresh `KubeConfig`: no loader, lock free, no call begun. -/
def init : State L := ⟨none, false, fun _ => .idle⟩

/-- The step of the event's goroutine. A goroutine waiting for a held lock, and one that
panicked, does not move. A goroutine that returned may call again. -/
def step (s : State L) (e : Event L) : State L :=
  let g := e.goroutine
  match s.pc g with
  | .idle | .done _ => { s with pc := Function.update s.pc g .lock }
  | .lock =>
    if s.locked then s else { s with locked := true, pc := Function.update s.pc g .check }
  | .check =>
    { s with pc := Function.update s.pc g (if s.clientConfig.isNone then .build else .read) }
  | .build =>
    match e.result with
    | .ok r => { s with clientConfig := r, pc := Function.update s.pc g .read }
    | .error p => { s with locked := false, pc := Function.update s.pc g (.panicked p) }
  | .read => { s with pc := Function.update s.pc g (.unlock s.clientConfig) }
  | .unlock r => { s with locked := false, pc := Function.update s.pc g (.done r) }
  | .panicked _ => s

/-- The state after the events, in order. -/
def run (s : State L) (events : List (Event L)) : State L :=
  events.foldl step s

@[simp] theorem run_nil (s : State L) : run s [] = s := rfl

@[simp] theorem run_cons (s : State L) (e : Event L) (events : List (Event L)) :
    run s (e :: events) = run (step s e) events := rfl

/-- What a goroutine at `pc` relies on about the stored loader: a construction runs only
while nothing is stored, a result read under the lock is the stored one, and a returned
loader is the stored one. -/
def Pc.Expects : Pc L → Option L → Prop
  | .build, stored => stored = none
  | .unlock r, stored => r = stored
  | .done (some l), stored => stored = some l
  | _, _ => True

/-- A goroutine outside the lock that expects nothing of an empty store expects nothing of
any store. -/
theorem Pc.expects_of_not_holdsLock {pc : Pc L} (hfree : pc.holdsLock = false)
    (hnone : pc.Expects none) (stored : Option L) : pc.Expects stored := by
  cases pc with
  | done r => cases r <;> simp_all [Pc.Expects]
  | _ => simp_all [Pc.Expects, Pc.holdsLock]

/-- The lock's bookkeeping and what every goroutine relies on. -/
structure Inv (s : State L) : Prop where
  /-- `lock` is held exactly when some goroutine is between `Lock` and `Unlock`. -/
  locked_iff : s.locked = true ↔ ∃ g, (s.pc g).holdsLock
  /-- At most one goroutine is between `Lock` and `Unlock`. -/
  exclusive : ∀ g h, (s.pc g).holdsLock → (s.pc h).holdsLock → g = h
  expects : ∀ g, (s.pc g).Expects s.clientConfig

open Function

section StepLemmas

variable {s : State L}

theorem holdsLock_update (g : Nat) (next : Pc L) (h : Nat) :
    (update s.pc g next h).holdsLock = if h = g then next.holdsLock else (s.pc h).holdsLock := by
  by_cases hg : h = g
  · subst hg; simp
  · simp [update_noteq hg, hg]

/-- Outside the goroutine that holds the lock, nobody does. -/
theorem Inv.others_free (hs : Inv s) {g h : Nat} (hheld : (s.pc g).holdsLock) (hne : h ≠ g) :
    (s.pc h).holdsLock = false := by
  cases hh : (s.pc h).holdsLock
  · rfl
  · exact absurd (hs.exclusive h g hh hheld) hne

/-- `g` moves to `next`, which expects of the store what holds of it; the others rely on
what they relied on. -/
theorem Inv.expects_update (hs : Inv s) (g : Nat) (next : Pc L)
    (hnext : next.Expects s.clientConfig) :
    ∀ h, (update s.pc g next h).Expects s.clientConfig := fun h => by
  by_cases hg : h = g
  · subst hg; simpa using hnext
  · rw [update_noteq hg]; exact hs.expects h

/-- A step that keeps who holds the lock. -/
theorem Inv.keep (hs : Inv s) {g : Nat} {next : Pc L} {c : Option L}
    (hsame : next.holdsLock = (s.pc g).holdsLock)
    (hexpects : ∀ h, (update s.pc g next h).Expects c) :
    Inv { s with clientConfig := c, pc := update s.pc g next } := by
  have hall : ∀ h, (update s.pc g next h).holdsLock = (s.pc h).holdsLock := fun h => by
    rw [holdsLock_update g]; split <;> simp_all
  exact ⟨by simpa only [hall] using hs.locked_iff, by simpa only [hall] using hs.exclusive,
    hexpects⟩

/-- The holder's step out of the lock. -/
theorem Inv.release (hs : Inv s) {g : Nat} {next : Pc L} (hheld : (s.pc g).holdsLock)
    (hnext : next.holdsLock = false)
    (hexpects : ∀ h, (update s.pc g next h).Expects s.clientConfig) :
    Inv { s with locked := false, pc := update s.pc g next } := by
  have hnone : ∀ h, (update s.pc g next h).holdsLock = false := fun h => by
    rw [holdsLock_update g]
    split
    · exact hnext
    · exact hs.others_free hheld ‹_›
  exact ⟨by simp [hnone], by simp [hnone], hexpects⟩

/-- A step into the free lock. -/
theorem Inv.acquire (hs : Inv s) {g : Nat} {next : Pc L} (hfree : s.locked = false)
    (hnext : next.holdsLock = true)
    (hexpects : ∀ h, (update s.pc g next h).Expects s.clientConfig) :
    Inv { s with locked := true, pc := update s.pc g next } := by
  have hnone : ∀ h, (s.pc h).holdsLock = false := fun h => by
    cases hh : (s.pc h).holdsLock
    · rfl
    · simp [hs.locked_iff.2 ⟨h, hh⟩] at hfree
  refine ⟨⟨fun _ => ⟨g, by simp [hnext]⟩, fun _ => rfl⟩, fun h h' hh hh' => ?_, hexpects⟩
  rw [holdsLock_update g] at hh hh'
  split at hh <;> split at hh' <;> simp_all

end StepLemmas

theorem step_inv {s : State L} (hs : Inv s) (e : Event L) : Inv (step s e) := by
  obtain ⟨g, result⟩ := e
  cases hpc : s.pc g with
  | idle | done r =>
    simp only [step, hpc]
    exact hs.keep (by simp [hpc, Pc.holdsLock]) (hs.expects_update g _ trivial)
  | lock =>
    simp only [step, hpc]
    split
    · exact hs
    · rename_i hfree
      exact hs.acquire (by simpa using hfree) rfl (hs.expects_update g _ trivial)
  | check =>
    simp only [step, hpc]
    refine hs.keep (by split <;> simp [hpc, Pc.holdsLock]) (hs.expects_update g _ ?_)
    split
    · exact Option.isNone_iff_eq_none.1 ‹_›
    · trivial
  | build =>
    have hheld : (s.pc g).holdsLock := by simp [hpc, Pc.holdsLock]
    have hnone : s.clientConfig = none := by simpa [hpc, Pc.Expects] using hs.expects g
    cases result with
    | ok r =>
      simp only [step, hpc]
      refine hs.keep (by simp [hpc, Pc.holdsLock]) fun h => ?_
      by_cases hg : h = g
      · subst hg; simp [Pc.Expects]
      · rw [update_noteq hg]
        exact Pc.expects_of_not_holdsLock (hs.others_free hheld hg) (hnone ▸ hs.expects h) r
    | error p =>
      simp only [step, hpc]
      exact hs.release hheld rfl (hs.expects_update g _ trivial)
  | read =>
    simp only [step, hpc]
    exact hs.keep (by simp [hpc, Pc.holdsLock]) (hs.expects_update g _ rfl)
  | unlock r =>
    simp only [step, hpc]
    have hr : r = s.clientConfig := by simpa [hpc, Pc.Expects] using hs.expects g
    refine hs.release (by simp [hpc, Pc.holdsLock]) rfl (hs.expects_update g _ ?_)
    cases r <;> simp_all [Pc.Expects]
  | panicked p =>
    simp only [step, hpc]
    exact hs

theorem inv_init : Inv (init : State L) :=
  ⟨by simp [init, Pc.holdsLock], by simp [init, Pc.holdsLock], fun _ => trivial⟩

theorem run_inv {s : State L} (hs : Inv s) (events : List (Event L)) : Inv (run s events) := by
  induction events generalizing s with
  | nil => exact hs
  | cons e events ih => exact ih (step_inv hs e)

/-- Once stored, a loader is never replaced: only a construction writes the store, and a
construction runs only while it is empty. -/
theorem step_stored {s : State L} (hs : Inv s) {l : L} (hstored : s.clientConfig = some l)
    (e : Event L) : (step s e).clientConfig = some l := by
  obtain ⟨g, result⟩ := e
  cases hpc : s.pc g with
  | build =>
    have hnone : s.clientConfig = none := by simpa [hpc, Pc.Expects] using hs.expects g
    simp [hnone] at hstored
  | lock => simp only [step, hpc]; split <;> exact hstored
  | _ => simpa [step, hpc] using hstored

theorem run_stored {s : State L} (hs : Inv s) {l : L} (hstored : s.clientConfig = some l)
    (events : List (Event L)) : (run s events).clientConfig = some l := by
  induction events generalizing s with
  | nil => exact hstored
  | cons e events ih => exact ih (step_inv hs e) (step_stored hs hstored e)

/-- What `k.lock` guarantees at every state of every run. -/
structure Guarantees (s : State L) : Prop where
  /-- No two goroutines run `toRawKubeConfigLoader` at once. -/
  build_exclusive : ∀ g h, s.pc g = .build → s.pc h = .build → g = h
  /-- `toRawKubeConfigLoader` runs only while no loader is stored. -/
  build_unstored : ∀ g, s.pc g = .build → s.clientConfig = none
  /-- A stored loader stays stored whatever the goroutines do next, so at most one
  constructed loader is ever stored. -/
  stored_forever : ∀ l events, s.clientConfig = some l → (run s events).clientConfig = some l
  /-- A call that returned a loader returned the stored one. -/
  returns_stored : ∀ g l, s.pc g = .done (some l) → s.clientConfig = some l
  /-- A construction that yields nil leaves nothing stored, -/
  nil_unstored : ∀ g, s.pc g = .build → (step s ⟨g, .ok none⟩).clientConfig = none
  /-- and the next call to test the store constructs again. -/
  retries : ∀ g result, s.pc g = .check → s.clientConfig = none →
    (step s ⟨g, result⟩).pc g = .build

theorem Inv.guarantees {s : State L} (hs : Inv s) : Guarantees s where
  build_exclusive g h hg hh := hs.exclusive g h (by simp [hg, Pc.holdsLock])
    (by simp [hh, Pc.holdsLock])
  build_unstored g hg := by simpa [hg, Pc.Expects] using hs.expects g
  stored_forever _ events hstored := run_stored hs hstored events
  returns_stored g l hg := by simpa [hg, Pc.Expects] using hs.expects g
  nil_unstored g hg := by simp [step, hg]
  retries g result hg hnone := by simp [step, hg, hnone]

/-- Every interleaving of calls to `ToRawKubeConfigLoader` by any number of goroutines, with
any construction outcomes, keeps the lock's guarantees at every state. -/
theorem ToRawKubeConfigLoader_serialized (events : List (Event L)) :
    Guarantees (run init events) :=
  (run_inv inv_init events).guarantees

section Progress

variable {s : State L} {g : Nat}

/-- The steps a goroutine inside the lock still takes up to its deferred `Unlock`. -/
def Pc.rank : Pc L → Nat
  | .check => 4
  | .build => 3
  | .read => 2
  | .unlock _ => 1
  | _ => 0

/-- The call is over: it returned, or its construction panicked. -/
def Pc.finished : Pc L → Bool
  | .done _ | .panicked _ => true
  | _ => false

theorem Pc.rank_le_four (pc : Pc L) : pc.rank ≤ 4 := by
  cases pc <;> simp [Pc.rank]

theorem Pc.rank_pos {pc : Pc L} (hheld : pc.holdsLock) : 0 < pc.rank := by
  cases pc <;> simp_all [Pc.rank, Pc.holdsLock]

theorem Pc.not_finished_of_holdsLock {pc : Pc L} (hheld : pc.holdsLock) : pc.finished = false := by
  cases pc <;> simp_all [Pc.finished, Pc.holdsLock]

/-- A step of another goroutine leaves `g` where it is. -/
theorem step_pc_of_ne {e : Event L} (hne : e.goroutine ≠ g) : (step s e).pc g = s.pc g := by
  obtain ⟨h, result⟩ := e
  have hkeep (next : Pc L) : update s.pc h next g = s.pc g := update_noteq (Ne.symm hne) _ _
  cases hpc : s.pc h with
  | lock => simp only [step, hpc]; split <;> simp only [hkeep]
  | build => cases result <;> simp only [step, hpc, hkeep]
  | _ => simp only [step, hpc, hkeep]

/-- The step of the goroutine holding the lock brings it closer to its `Unlock`, or out of
the lock with its call over and the lock free. -/
theorem holder_step (hheld : (s.pc g).holdsLock) (result : Except Panic (Option L)) :
    ((step s ⟨g, result⟩).pc g).holdsLock ∧ ((step s ⟨g, result⟩).pc g).rank < (s.pc g).rank ∨
      (step s ⟨g, result⟩).locked = false ∧ ((step s ⟨g, result⟩).pc g).finished := by
  cases hpc : s.pc g with
  | check =>
    left
    by_cases hnone : s.clientConfig.isNone <;> simp [step, hpc, hnone, Pc.holdsLock, Pc.rank]
  | build => cases result <;> simp [step, hpc, Pc.holdsLock, Pc.rank, Pc.finished]
  | read => simp [step, hpc, Pc.holdsLock, Pc.rank]
  | unlock r => simp [step, hpc, Pc.finished]
  | _ => simp [hpc, Pc.holdsLock] at hheld

/-- The holder's call ends once it has moved as often as its rank, whatever the others do. -/
theorem holder_releases_within (hheld : (s.pc g).holdsLock) (events : List (Event L))
    (hmoves : (s.pc g).rank ≤ events.countP (·.goroutine = g)) :
    ∃ pre post, events = pre ++ post ∧ (run s pre).locked = false ∧
      ((run s pre).pc g).finished := by
  induction events generalizing s with
  | nil =>
    have := Pc.rank_pos hheld
    simp at hmoves
    omega
  | cons e events ih =>
    by_cases hg : e.goroutine = g
    · obtain ⟨h, result⟩ := e
      obtain rfl : h = g := hg
      rcases holder_step hheld result with ⟨hheld', hlt⟩ | ⟨hfree, hfinished⟩
      · have hmoves' : ((step s ⟨h, result⟩).pc h).rank ≤ events.countP (·.goroutine = h) := by
          simp [List.countP_cons] at hmoves
          omega
        obtain ⟨pre, post, rfl, hpre⟩ := ih hheld' hmoves'
        exact ⟨⟨h, result⟩ :: pre, post, rfl, hpre⟩
      · exact ⟨[⟨h, result⟩], events, rfl, hfree, hfinished⟩
    · have hpc := step_pc_of_ne (s := s) hg
      obtain ⟨pre, post, rfl, hpre⟩ :=
        ih (hpc ▸ hheld) (by simpa [hpc, List.countP_cons, hg] using hmoves)
      exact ⟨e :: pre, post, rfl, hpre⟩

/-- The goroutine holding the lock leaves it within four of its own steps, whatever the
other goroutines do in between: every run in which it moves four times has a prefix after
which its call is over and the lock is free. -/
theorem holder_releases (hheld : (s.pc g).holdsLock) (events : List (Event L))
    (hmoves : 4 ≤ events.countP (·.goroutine = g)) :
    ∃ pre post, events = pre ++ post ∧ (run s pre).locked = false ∧
      ((run s pre).pc g).finished :=
  holder_releases_within hheld events (Nat.le_trans (Pc.rank_le_four _) hmoves)

/-- Goroutine 0 holds the lock at the test of an empty store; goroutine 1 is not in a call. -/
def checking : State Unit := ⟨none, true, update (fun _ => .idle) 0 .check⟩

/-- A run in which goroutine 1 calls, and waits, between the four steps of goroutine 0. -/
def checkingRun : List (Event Unit) :=
  [⟨1, .ok none⟩, ⟨0, .ok (some ())⟩, ⟨1, .ok none⟩, ⟨0, .ok none⟩, ⟨0, .ok none⟩,
    ⟨1, .ok none⟩, ⟨0, .ok none⟩]

theorem holder_releases_from_checking :
    (checking.pc 0).holdsLock ∧ 4 ≤ checkingRun.countP (·.goroutine = 0) ∧
      ∃ pre post, checkingRun = pre ++ post ∧ (run checking pre).locked = false ∧
        ((run checking pre).pc 0).finished :=
  ⟨rfl, by decide, @holder_releases Unit checking 0 rfl checkingRun (by decide)⟩

/-- No reachable state is stuck. While a goroutine waits for the lock, the goroutine holding
it moves at each of its steps, whatever its construction gives; with the lock free, the
waiting goroutine takes it at its next step. -/
theorem no_deadlock (events : List (Event L)) (hwait : (run init events).pc g = .lock) :
    ((run init events).locked = true → ∃ h, ((run init events).pc h).holdsLock ∧
      ∀ result, (step (run init events) ⟨h, result⟩).pc h ≠ (run init events).pc h) ∧
    ((run init events).locked = false →
      ∀ result, (step (run init events) ⟨g, result⟩).pc g = .check) := by
  refine ⟨fun hlocked => ?_, fun hfree _ => by simp [step, hwait, hfree]⟩
  obtain ⟨h, hheld⟩ := (run_inv inv_init events).locked_iff.1 hlocked
  refine ⟨h, hheld, fun result hsame => ?_⟩
  rcases holder_step hheld result with ⟨-, hlt⟩ | ⟨-, hfinished⟩
  · rw [hsame] at hlt
    exact Nat.lt_irrefl _ hlt
  · rw [hsame, Pc.not_finished_of_holdsLock hheld] at hfinished
    exact Bool.false_ne_true hfinished

/-- Goroutine 0 takes the lock, and goroutine 1 waits for it. -/
def waitingRun : List (Event Unit) :=
  [⟨0, .ok none⟩, ⟨1, .ok none⟩, ⟨0, .ok none⟩, ⟨1, .ok none⟩]

theorem no_deadlock_on_waitingRun :
    (run init waitingRun).pc 1 = .lock ∧
      ((run init waitingRun).locked = true → ∃ h, ((run init waitingRun).pc h).holdsLock ∧
        ∀ result, (step (run init waitingRun) ⟨h, result⟩).pc h ≠ (run init waitingRun).pc h) ∧
      ((run init waitingRun).locked = false →
        ∀ result, (step (run init waitingRun) ⟨1, result⟩).pc 1 = .check) :=
  ⟨rfl, @no_deadlock Unit 1 waitingRun rfl⟩

end Progress

section Refinement

open Clientcmd

variable {env : Env} {k k' : KubeConfig} {s : State DeferredLoadingClientConfig} {g : Nat}

/-- `n` steps of goroutine `g`, whose construction gives what `toRawKubeConfigLoader` gives
for `k`. -/
def soloSteps (env : Env) (k : KubeConfig) (g n : Nat) : List (Event DeferredLoadingClientConfig) :=
  List.replicate n ⟨g, toRawKubeConfigLoader env k.configData k.ns⟩

/-- A goroutine calling alone, with the lock free and the store as in `k`, returns what the
sequential `ToRawKubeConfigLoader` returns and leaves the store it leaves. -/
theorem solo_call_refines (hidle : s.pc g = .idle) (hfree : s.locked = false)
    (hstored : s.clientConfig = k.clientConfig) {r : Option DeferredLoadingClientConfig}
    (hk : k.ToRawKubeConfigLoader env = .ok (r, k')) :
    ∃ n, (run s (soloSteps env k g n)).pc g = .done r ∧
      (run s (soloSteps env k g n)).clientConfig = k'.clientConfig ∧
      (run s (soloSteps env k g n)).locked = false := by
  cases hc : k.clientConfig with
  | some c =>
    rw [KubeConfig.ToRawKubeConfigLoader_of_cached hc] at hk
    cases hk
    refine ⟨5, ?_⟩
    simp [soloSteps, List.replicate, step, hidle, hfree, hstored, hc]
  | none =>
    cases hbuilt : toRawKubeConfigLoader env k.configData k.ns with
    | error p => simp [KubeConfig.ToRawKubeConfigLoader_of_panic hc hbuilt] at hk
    | ok built =>
      rw [KubeConfig.ToRawKubeConfigLoader_of_uncached hc hbuilt] at hk
      cases hk
      refine ⟨6, ?_⟩
      simp [soloSteps, List.replicate, step, hidle, hfree, hstored, hc, hbuilt, KubeConfig.store]

theorem solo_call_refines_on_defaultBlock :
    ∃ n, (run init (soloSteps bareEnv (.new defaultBlock none) 0 n)).pc 0 =
        .done (some defaultBlockLoader) ∧
      (run init (soloSteps bareEnv (.new defaultBlock none) 0 n)).clientConfig =
        some defaultBlockLoader ∧
      (run init (soloSteps bareEnv (.new defaultBlock none) 0 n)).locked = false :=
  solo_call_refines rfl rfl rfl (KubeConfig.ToRawKubeConfigLoader_of_uncached rfl (by decide))

end Refinement

end HelmProvider.Interleaving
