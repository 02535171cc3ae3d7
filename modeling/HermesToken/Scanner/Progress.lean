import HermesToken.Scanner.Cursor

/-!
# A cursor that keeps moving

In an endless run in which calls succeed again and again, the cursor of a
scanner passes every block that gets its confirmations. What a scanner stores
of the blocks of a successful call is then stored of every block after its
first.
-/

namespace HermesToken.Scanner

open Lib Payment

variable {Env : Type}

def endless (rates : Rates) (call : Env → ScanCall) (w : ScanWorld) (acts : ℕ → ScanAct Env) :
    ℕ → ScanRun :=
  stream (ScanRun.step rates fun env => (call env).run) { world := w } acts

/-- Again and again a call returns without an error. -/
def KeepsSucceeding (call : Env → ScanCall) (acts : ℕ → ScanAct Env) (run : ℕ → ScanRun) :
    Prop :=
  ∀ n, ∃ m, n ≤ m ∧ ∃ env, acts m = .scan env ∧
    ∃ r, ((call env).run (run m).world).2 = .ok r

/-- From some point on the block has its confirmations. -/
def Confirmed (call : Env → ScanCall) (acts : ℕ → ScanAct Env) (confirmations b : Int) : Prop :=
  ∃ n, ∀ m, n ≤ m → ∀ env height, acts m = .scan env → (call env).height = .ok height →
    b ≤ maxSafe confirmations height

/-- The scanner has a first position, and the block is not before it. -/
def AfterFirst (run : ℕ → ScanRun) (b : Int) : Prop :=
  ∃ n, ∃ first ∈ (run n).history.getLast?, first.window.lo ≤ b

variable {confirmations : Int} {rates : Rates}
  {call : Env → ScanCall}

theorem followed_endless (hmono : ∀ b st st', KeepsRows st st' → wanted b st → wanted b st')
    (hcalls : ∀ n env, acts n = .scan env →
      Stores wanted confirmations (call env) (endless rates call w acts n).world) (n : ℕ) :
    Followed wanted confirmations (endless rates call w acts n) := by
  refine stream_invariant (Followed wanted confirmations) (followed_start w) (fun n h => ?_) n
  cases hact : acts n with
  | other now op => exact h.other hmono rates now op
  | scan env => exact h.scanCall hmono (hcalls n env hact)

/-! ## The reach of a run -/

/-- The last block of the newest window. -/
def reach (run : ScanRun) : Int :=
  match run.history with
  | v :: _ => v.window.hi
  | [] => 0

theorem history_step (rates : Rates) (call : Env → ScanCall) (run : ScanRun) (act : ScanAct Env) :
    (run.step rates (fun env => (call env).run) act).history = run.history ∨
      ∃ v, (run.step rates (fun env => (call env).run) act).history = v :: run.history := by
  cases act with
  | other => exact .inl rfl
  | scan =>
    simp only [ScanRun.step, ScanRun.scanned]
    split
    · exact .inr ⟨_, rfl⟩
    · exact .inl rfl

/-- Once there is a first window it stays the first, and the reach never
shrinks. -/
theorem reach_step
    (h : Followed wanted confirmations (run.step rates (fun env => (call env).run) act))
    (hfst : first ∈ run.history.getLast?) :
    first ∈ (run.step rates (fun env => (call env).run) act).history.getLast? ∧
      reach run ≤ reach (run.step rates (fun env => (call env).run) act) := by
  rcases history_step rates call run act with heq | ⟨v, heq⟩
  · rw [heq]
    exact ⟨hfst, by simp only [reach, heq]; exact le_refl _⟩
  cases hh : run.history with
  | nil =>
    rw [hh] at hfst
    cases hfst
  | cons u =>
  have htiled := h.tiled
  rw [heq, hh] at htiled
  have hlt : u.window.hi < v.window.lo := htiled.hi_le u.window (by simp)
  have hle : v.window.lo ≤ v.window.hi := htiled.1
  refine ⟨?_, ?_⟩
  · rw [heq, hh, List.getLast?_cons_cons, ← hh]
    exact hfst
  · simp only [reach, heq, hh]
    omega

/-- A call that succeeds while the reach is below a confirmed block moves it. -/
theorem reach_lt
    (h : Followed wanted confirmations run) (hstore : Stores wanted confirmations (call env)
      run.world) (hne : run.history ≠ []) (hheight : (call env).height = .ok height)
    (hb : b ≤ maxSafe confirmations height) (hlt : reach run < b)
    (hok : ∃ r, ((call env).run run.world).2 = .ok r) :
    reach run < reach (run.scanned ((call env).run run.world)) := by
  obtain ⟨u, older, hh⟩ := List.exists_cons_of_ne_nil hne
  have hreach : reach run = u.window.hi := by simp only [reach, hh]
  have hnext : ((call env).window height run.world.state).lo = u.window.hi + 1 := by
    show scanFrom _ (call env).confirmations height run.world.state = _
    rw [hstore.same]
    exact h.next (by rw [hh]; rfl)
  obtain ⟨v, hv⟩ := ScanCall.run_scans hstore.sound hheight (by rw [hnext, hstore.same]; omega) hok
  obtain ⟨htop, hwin, _⟩ := ScanCall.run_scanned hstore.sound hv
  have hsame : v.height = height := by
    rw [hheight] at htop
    cases htop
    rfl
  have hlo : v.window.lo = u.window.hi + 1 := by rw [hwin, hsame, hnext]
  have hle := (ScanCall.run_advances hstore.sound run.world).nonempty v hv
  have hafter : reach (run.scanned ((call env).run run.world)) = v.window.hi := by
    simp only [reach, ScanRun.scanned, hv]
  omega

/-- **Every confirmed block is reached.** When calls keep succeeding, what is
wanted of a confirmed block after the first position is stored in the end. -/
theorem eventually_stored (hmono : ∀ b st st', KeepsRows st st' → wanted b st → wanted b st')
    (hcalls : ∀ n env, acts n = .scan env →
      Stores wanted confirmations (call env) (endless rates call w acts n).world)
    (hsucc : KeepsSucceeding call acts (endless rates call w acts))
    (hconf : Confirmed call acts confirmations b)
    (hafter : AfterFirst (endless rates call w acts) b) :
    ∃ n, wanted b (endless rates call w acts n).world.store := by
  set run := endless rates call w acts with hrun
  have hsteps : ∀ n, Followed wanted confirmations (run n) := followed_endless hmono hcalls
  obtain ⟨n₀, hsafe⟩ := hconf
  obtain ⟨n₁, first, hfst₁, hlo⟩ := hafter
  -- from `n₁` on the first window is there
  have hfst : ∀ k, first ∈ (run (n₁ + k)).history.getLast? := by
    intro k
    induction k with
    | zero => exact hfst₁
    | succ k ih => exact (reach_step (hsteps (n₁ + k + 1)) ih).1
  have hfst' : ∀ n, n₁ ≤ n → first ∈ (run n).history.getLast? := by
    intro n hn
    have := hfst (n - n₁)
    rwa [show n₁ + (n - n₁) = n by omega] at this
  have hne : ∀ n, n₁ ≤ n → (run n).history ≠ [] := by
    intro n hn hnil
    have := hfst' n hn
    rw [hnil] at this
    cases this
  have hgrow : ∀ n, n₁ ≤ n → reach (run n) ≤ reach (run (n + 1)) :=
    fun n hn => (reach_step (hsteps (n + 1)) (hfst' n hn)).2
  have hmove : ∀ n, max n₀ n₁ ≤ n → ∃ m, n ≤ m ∧
      (b ≤ reach (run m) ∨ reach (run m) < b ∧ reach (run m) < reach (run (m + 1))) := by
    intro n hn
    obtain ⟨m, hm, env, hact, hok⟩ := hsucc n
    refine ⟨m, hm, ?_⟩
    by_cases hpast : b ≤ reach (run m)
    · exact .inl hpast
    have hstore := hcalls m env hact
    obtain ⟨height, htop⟩ := ScanCall.run_height hstore.sound hok
    have hstep : run (m + 1) = (run m).scanned ((call env).run (run m).world) := by
      show (run m).step rates (fun env => (call env).run) (acts m) = _
      rw [hact]
      rfl
    have hlt := reach_lt (hsteps m) hstore (hne m (by omega)) htop
      (hsafe m (by omega) env height hact htop) (by omega) hok
    rw [← hstep] at hlt
    exact .inr ⟨by omega, hlt⟩
  -- the rank is what the reach lacks of the block
  have hrank : ∀ n, max n₀ n₁ ≤ n →
      (b - reach (run (n + 1))).toNat ≤ (b - reach (run n)).toNat := by
    intro n hn
    have := hgrow n (by omega)
    omega
  obtain ⟨n, hn, _⟩ := eventually_of_progress (fun r => (b - reach r).toNat)
    (fun r => b ≤ reach r) (max n₀ n₁) hrank (by
      intro n hn
      obtain ⟨m, hm, hpast | ⟨hlt, _⟩⟩ := hmove n hn
      · exact ⟨m, hm, .inl hpast⟩
      · exact ⟨m, hm, .inr (by omega)⟩)
  -- the block is now between the first window and the cursor
  obtain ⟨u, older, hh⟩ := List.exists_cons_of_ne_nil (hne n (by omega))
  obtain ⟨_, s, hs, hlast⟩ := (hsteps n).cursor u (by rw [hh]; rfl)
  have hreach : reach (run n) = u.window.hi := by simp only [reach, hh]
  have hcursor : u.window.hi ∈ (run n).lastScannedBlock := by
    simp only [ScanRun.lastScannedBlock, hs, Option.map_some, Option.mem_def, hlast]
  exact ⟨n, (hsteps n).complete (hfst' n (by omega)) hlo hcursor (by omega)⟩

end HermesToken.Scanner
