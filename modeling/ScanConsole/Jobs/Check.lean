import ScanConsole.Jobs.Job

/-!
# Checks for due refreshes

A check looks which tabs are due and refreshes them one after the other, each
with the time of the check. A refresh that fails does not keep the next from
being made. The check gives back the tabs whose refresh succeeded.
-/

namespace ScanConsole

structure Check where
  time : Instant
  /-- The check has not looked yet which tabs are due. -/
  fresh : Bool := true
  /-- The due tabs that are still to come. -/
  due : List String := []
  /-- The tab that is being refreshed. -/
  current : Option (String × Job) := none
  /-- The tabs whose refresh succeeded, in their order. -/
  refreshed : List String := []

namespace Check

def ofTime (time : Instant) : Check := { time := time }

/-- The refreshed tabs with one more, if its refresh succeeded. -/
def collect (c : Check) (id : String) : Except Failure Yield → List String
  | .ok (.refreshed true) => c.refreshed ++ [id]
  | _ => c.refreshed

/-- The tabs that have been refreshed, if the check has ended. -/
def result? (c : Check) : Option (List String) :=
  if c.fresh then none
  else
    match c.current, c.due with
    | none, [] => some c.refreshed
    | _, _ => none

/-- The session that has to be cleared when the check is given up. -/
def orphan? (c : Check) : Option SessionId := c.current.bind fun current => current.2.orphan?

variable {σ : Type}

/-- One move, if there is one. -/
def step (tr : Transport σ) (c : Check) (w : World σ) : Option (Check × World σ) :=
  if c.fresh then some ({ c with fresh := false, due := w.state.dueTabs c.time }, w)
  else
    match c.current with
    | some (id, j) =>
      match j.result? with
      | some result => some ({ c with current := none, refreshed := c.collect id result }, w)
      | none => (j.step tr w).map fun m => ({ c with current := some (id, m.1) }, m.2)
    | none =>
      match c.due with
      | [] => none
      | id :: due => some ({ c with due := due, current := some (id, .ofRefresh id (some c.time)) }, w)

/-! ## Settling -/

/-- Whether a refresh is in progress, as a number. -/
def busy (c : Check) : Nat := if c.current.isSome then 1 else 0

def stage (c : Check) : JobStage :=
  match c.current with
  | some (_, j) => j.stage
  | none => .ended (.ok (.refreshed false))

/-- Every move brings the check nearer to its end. -/
theorem step_decreases {tr : Transport σ} {c c' : Check} {w w' : World σ}
    (h : c.step tr w = some (c', w')) :
    (c.fresh = true ∧ c'.fresh = false) ∨ (c'.fresh = c.fresh ∧
      (c'.due.length < c.due.length ∨ (c'.due.length = c.due.length ∧
        (c'.busy < c.busy ∨ (c'.busy = c.busy ∧
          (c'.stage.rank < c.stage.rank ∨ (c'.stage.rank = c.stage.rank ∧
            (c'.stage.runRank < c.stage.runRank ∨
              (c'.stage.runRank = c.stage.runRank ∧ c'.stage.work < c.stage.work))))))))) := by
  unfold step at h
  by_cases hf : c.fresh = true
  · simp only [hf, if_true, Option.some.injEq, Prod.mk.injEq] at h
    obtain ⟨rfl, _⟩ := h
    exact .inl ⟨hf, rfl⟩
  · refine .inr ?_
    simp only [hf, Bool.false_eq_true, if_false] at h
    split at h
    · next id j hc =>
      split at h
      · simp only [Option.some.injEq, Prod.mk.injEq] at h
        obtain ⟨rfl, _⟩ := h
        exact ⟨by simpa using hf, .inr ⟨rfl, .inl (by simp [busy, hc])⟩⟩
      · simp only [Option.map_eq_some_iff, Prod.mk.injEq] at h
        obtain ⟨⟨j', w₁⟩, hm, rfl, _⟩ := h
        refine ⟨by simpa using hf, .inr ⟨rfl, .inr ⟨by simp [busy, hc], ?_⟩⟩⟩
        simpa [stage, hc] using Job.step_decreases hm
    · split at h
      · simp at h
      · next id due hd =>
        simp only [Option.some.injEq, Prod.mk.injEq] at h
        obtain ⟨rfl, _⟩ := h
        exact ⟨by simpa using hf, .inl (by simp [hd])⟩

/-- Moves as long as there are any. -/
def settle (tr : Transport σ) (c : Check) (w : World σ) : Check × World σ :=
  match _moved : c.step tr w with
  | none => (c, w)
  | some (c', w') => settle tr c' w'
  termination_by
    (c.fresh.toNat, c.due.length, c.busy, c.stage.rank, c.stage.runRank, c.stage.work)
  decreasing_by
    rcases step_decreases _moved with ⟨h, h'⟩ | ⟨hf, h | ⟨hd, h | ⟨hb, h | ⟨hr, h | ⟨hu, h⟩⟩⟩⟩⟩
    · rw [h, h']; exact Prod.Lex.left _ _ Nat.zero_lt_one
    · rw [← hf]; exact Prod.Lex.right _ (Prod.Lex.left _ _ h)
    · rw [← hf, ← hd]; exact Prod.Lex.right _ (Prod.Lex.right _ (Prod.Lex.left _ _ h))
    · rw [← hf, ← hd, ← hb]
      exact Prod.Lex.right _ (Prod.Lex.right _ (Prod.Lex.right _ (Prod.Lex.left _ _ h)))
    · rw [← hf, ← hd, ← hb, ← hr]
      exact Prod.Lex.right _ (Prod.Lex.right _ (Prod.Lex.right _ (Prod.Lex.right _
        (Prod.Lex.left _ _ h))))
    · rw [← hf, ← hd, ← hb, ← hr, ← hu]
      exact Prod.Lex.right _ (Prod.Lex.right _ (Prod.Lex.right _ (Prod.Lex.right _
        (Prod.Lex.right _ h))))

end Check

end ScanConsole
