import Rollout.Run.Basic
/-!
# How runs end

Whether a run returns, and runs that only decide: they change nothing and return, so that a run ends
like the part of it that comes before a decision.
-/

namespace Rollout

variable {σ ε φ α β : Type}

namespace Outcome

/-- A panic is no return. -/
def returns : Outcome ε α → Bool
  | .done _ => true
  | .failed _ => true
  | .panicked _ => false

def ofExcept : Except ε α → Outcome ε α
  | .ok a => .done a
  | .error e => .failed e

theorem ofExcept_eq_done_iff {x : Except ε α} {a : α} : ofExcept x = .done a ↔ x = .ok a := by
  cases x <;> simp [ofExcept]

/-- A value gives way to a decision on it. -/
def through (decide : α → Except ε β) : Outcome ε α → Outcome ε β
  | .done a => ofExcept (decide a)
  | .failed e => .failed e
  | .panicked text => .panicked text

/-- The same with another fault. -/
def mapFault (f : ε → φ) : Outcome ε α → Outcome φ α
  | .done a => .done a
  | .failed e => .failed (f e)
  | .panicked text => .panicked text

theorem returns_through (decide : α → Except ε β) (o : Outcome ε α) :
    (o.through decide).returns = o.returns := by
  cases o with
  | done a =>
      change (ofExcept (decide a)).returns = true
      cases decide a <;> rfl
  | failed e => rfl
  | panicked text => rfl

theorem through_eq_done_iff {decide : α → Except ε β} {o : Outcome ε α} {b : β} :
    o.through decide = .done b ↔ ∃ a, o = .done a ∧ decide a = .ok b := by
  cases o with
  | done a =>
      change ofExcept (decide a) = .done b ↔ _
      rw [ofExcept_eq_done_iff]
      exact ⟨fun h => ⟨a, rfl, h⟩, fun ⟨_, ha, h⟩ => by cases ha; exact h⟩
  | failed e => exact ⟨nofun, nofun⟩
  | panicked text => exact ⟨nofun, nofun⟩

theorem through_eq_failed_iff {decide : α → Except ε β} {o : Outcome ε α} {e : ε} :
    o.through decide = .failed e ↔
      o = .failed e ∨ ∃ a, o = .done a ∧ decide a = .error e := by
  cases o with
  | done a =>
      change ofExcept (decide a) = .failed e ↔ _
      cases hdecide : decide a <;> simp [ofExcept, hdecide]
  | failed e' => simp [through]
  | panicked text => simp [through]

theorem through_eq_panicked_iff {decide : α → Except ε β} {o : Outcome ε α} {text : String} :
    o.through decide = .panicked text ↔ o = .panicked text := by
  cases o with
  | done a =>
      change ofExcept (decide a) = .panicked text ↔ _
      cases decide a <;> simp [ofExcept]
  | failed e => exact ⟨nofun, nofun⟩
  | panicked other => simp [through]

theorem mapFault_eq_failed_iff {f : ε → φ} {o : Outcome ε α} {e : φ} :
    o.mapFault f = .failed e ↔ ∃ e', o = .failed e' ∧ f e' = e := by
  cases o <;> simp [mapFault]

theorem mapFault_eq_done_iff {f : ε → φ} {o : Outcome ε α} {a : α} :
    o.mapFault f = .done a ↔ o = .done a := by
  cases o with
  | done b => exact ⟨fun h => by cases h; rfl, fun h => by cases h; rfl⟩
  | failed e => exact ⟨nofun, nofun⟩
  | panicked text => exact ⟨nofun, nofun⟩

end Outcome

namespace Run

/-- The run leaves everything as it is and returns. -/
structure Decides (x : Run σ ε α) : Prop where
  state : ∀ clock now s, (x clock now s).state = s
  returns : ∀ clock now s, (x clock now s).outcome.returns = true

theorem decides_pure (a : α) : Decides (pure a : Run σ ε α) :=
  ⟨fun _ _ _ => rfl, fun _ _ _ => rfl⟩

theorem decides_fail (e : ε) : Decides (fail e : Run σ ε α) :=
  ⟨fun _ _ _ => rfl, fun _ _ _ => rfl⟩

theorem decides_ofExcept (x : Except ε α) : Decides (ofExcept x : Run σ ε α) := by
  cases x with
  | ok a => exact decides_pure a
  | error e => exact decides_fail e

section

variable {x : Run σ ε α} {f : α → Run σ ε β} (hf : ∀ a, Decides (f a))
  (clock : Time.Clock)
  (now : Nat) (s : σ)
include hf

theorem state_bind_of_decides : ((x >>= f) clock now s).state = (x clock now s).state := by
  rw [bind_apply]
  rcases x clock now s with ⟨a | _ | _, t, n⟩
  · exact (hf a).state clock (now + n) t
  · rfl
  · rfl

theorem returns_bind_of_decides :
    ((x >>= f) clock now s).outcome.returns = (x clock now s).outcome.returns := by
  rw [bind_apply]
  rcases x clock now s with ⟨a | _ | _, t, n⟩
  · exact (hf a).returns clock (now + n) t
  · rfl
  · rfl

theorem post_bind_of_decides {post : Bool → σ → Prop}
    (h : post (x clock now s).outcome.returns (x clock now s).state) :
    post ((x >>= f) clock now s).outcome.returns ((x >>= f) clock now s).state := by
  rwa [state_bind_of_decides hf, returns_bind_of_decides hf]

end

theorem bind_ofExcept_apply (x : Run σ ε α) (decide : α → Except ε β) (clock : Time.Clock)
    (now : Nat) (s : σ) : (x >>= fun a => ofExcept (decide a)) clock now s =
      ⟨(x clock now s).outcome.through decide, (x clock now s).state,
        (x clock now s).elapsed⟩ := by
  rw [bind_apply]
  rcases x clock now s with ⟨a | _ | _, t, n⟩
  · simp only [Outcome.through]
    cases decide a <;> rfl
  · rfl
  · rfl

theorem mapFault_apply (f : ε → φ) (x : Run σ ε α) (clock : Time.Clock)
    (now : Nat) (s : σ) :
    x.mapFault f clock now s = ⟨(x clock now s).outcome.mapFault f, (x clock now s).state,
      (x clock now s).elapsed⟩ := by
  unfold mapFault
  rcases x clock now s with ⟨_ | _ | _, t, n⟩ <;> rfl

theorem attempt_apply (x : Run σ ε α) (clock : Time.Clock) (now : Nat) (s : σ) :
    (x.attempt : Run σ φ (Except ε α)) clock now s = match x clock now s with
      | ⟨.done a, t, n⟩ => ⟨.done (.ok a), t, n⟩
      | ⟨.failed e, t, n⟩ => ⟨.done (.error e), t, n⟩
      | ⟨.panicked text, t, n⟩ => ⟨.panicked text, t, n⟩ := rfl

theorem state_attempt (x : Run σ ε α) (clock : Time.Clock) (now : Nat) (s : σ) :
    ((x.attempt : Run σ φ (Except ε α)) clock now s).state = (x clock now s).state := by
  rw [attempt_apply]
  rcases x clock now s with ⟨_ | _ | _, t, n⟩ <;> rfl

theorem returns_attempt (x : Run σ ε α) (clock : Time.Clock) (now : Nat) (s : σ) :
    ((x.attempt : Run σ φ (Except ε α)) clock now s).outcome.returns =
      (x clock now s).outcome.returns := by
  rw [attempt_apply]
  rcases x clock now s with ⟨_ | _ | _, t, n⟩ <;> rfl

/-- Runs for each of some items: what holds where each of them starts holds where they end, and
the first one that does not return is the last one. -/
theorem forEach_post {f : α → Run σ ε Unit} (clock : Time.Clock) {post : Bool → σ → Prop}
    (step : ∀ a now s, post true s →
      post (f a clock now s).outcome.returns (f a clock now s).state)
    (fails : ∀ a now s e, (f a clock now s).outcome ≠ .failed e)
    (items : List α) (now : Nat) (s : σ) (start : post true s) :
    post (forEach items f clock now s).outcome.returns (forEach items f clock now s).state := by
  induction items generalizing now s with
  | nil => exact start
  | cons a rest ih =>
      have hfirst := step a now s start
      have hfails := fails a now s
      change post (((f a) >>= fun _ => forEach rest f) clock now s).outcome.returns
        (((f a) >>= fun _ => forEach rest f) clock now s).state
      rw [bind_apply]
      rcases hstep : f a clock now s with ⟨_ | e | _, t, n⟩
      · rw [hstep] at hfirst
        exact ih (now + n) t hfirst
      · rw [hstep] at hfails
        exact absurd rfl (hfails e)
      · -- A panic ends the sequence, where the state is that of the run that has panicked.
        rwa [hstep] at hfirst

end Run

end Rollout
