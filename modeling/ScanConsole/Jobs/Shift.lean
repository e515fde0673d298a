import ScanConsole.Jobs.Turn

/-!
# Shifts

A shift is a workspace in which time passes. Beside its tasks there are checks
for due refreshes in progress, and whatever takes a time takes it from the clock
of the shift, which never goes back. As with turns, nothing fixes what happens
next: `Shift.play` lets things happen in the order of a list.
-/

namespace ScanConsole

variable {σ : Type}

/-- A workspace with checks in progress. -/
structure Shift (σ : Type) where
  clock : Instant
  workspace : Workspace σ
  /-- The checks in progress, in the order in which they began. -/
  checks : List Check := []

/-- One thing that happens in a shift. -/
inductive ShiftTurn where
  /-- So many nanoseconds pass. -/
  | pass (nanos : Nat)
  | work (u : Turn)
  | setInterval (tab : String) (interval : RefreshInterval)
  /-- A check begins. -/
  | check
  /-- The check at this place moves. -/
  | move (place : Nat)
  /-- The check at this place is given up. -/
  | drop (place : Nat)
  /-- It is given up on a thread without a runtime. -/
  | abandon (place : Nat)

/-- The deed of the next move of a check. -/
def Check.deed (tr : Transport σ) (c : Check) (w : World σ) : Deed :=
  match c.fresh, c.current with
  | false, some (_, j) => j.deed tr w
  | _, _ => .nothing

def Deed.told? : Deed → Option Action
  | .tells a => some a
  | _ => none

namespace Shift

def state (s : Shift σ) : State := s.workspace.world.state

/-- The workspace with the time of the shift. -/
def timed (s : Shift σ) : Workspace σ := s.workspace.onWorld fun w => { w with clock := s.clock }

def turn (tr : Transport σ) (s : Shift σ) : ShiftTurn → Shift σ
  | .pass nanos => { s with clock := ⟨s.clock.nanos + nanos⟩ }
  | .work u => { s with workspace := s.timed.turn tr u }
  | .setInterval tab interval =>
    { s with workspace := s.timed.onWorld (Workspace.setInterval tab interval) }
  | .check => { s with checks := s.checks ++ [.ofTime s.clock] }
  | .move place =>
    match s.checks[place]? with
    | none => s
    | some c =>
      match c.step tr s.timed.world with
      | none => s
      | some (c', w) =>
        { s with workspace := { s.workspace with world := w }, checks := s.checks.set place c' }
  | .drop place =>
    match s.checks[place]? with
    | none => s
    | some c =>
      { s with
        workspace := { s.workspace with
          tasks := s.workspace.tasks ++ c.orphan?.toList.map fun session => ⟨none, .clear session⟩ }
        checks := s.checks.eraseIdx place }
  | .abandon place => { s with checks := s.checks.eraseIdx place }

/-- The shift after several turns. -/
def play (tr : Transport σ) (s : Shift σ) (turns : List ShiftTurn) : Shift σ := turns.foldl (turn tr) s

/-- The action that a turn tells the console. -/
def told? (tr : Transport σ) (s : Shift σ) : ShiftTurn → Option Action
  | .work (.tell a) => some a
  | .work u => (s.timed.deed? tr u).bind fun d => d.2.told?
  | .setInterval tab interval => some (.refreshIntervalSet tab interval s.clock)
  | .move place =>
    match s.checks[place]? with
    | none => none
    | some c => (c.step tr s.timed.world).bind fun _ => (c.deed tr s.timed.world).told?
  | _ => none

/-- The actions that several turns tell the console, in their order. -/
def tolds (tr : Transport σ) : Shift σ → List ShiftTurn → List Action
  | _, [] => []
  | s, u :: rest => (s.told? tr u).toList ++ tolds tr (s.turn tr u) rest

@[simp] theorem play_nil (tr : Transport σ) (s : Shift σ) : s.play tr [] = s := rfl

@[simp] theorem play_cons (tr : Transport σ) (s : Shift σ) (u : ShiftTurn) (us : List ShiftTurn) :
    s.play tr (u :: us) = (s.turn tr u).play tr us := rfl

theorem play_append (tr : Transport σ) (s : Shift σ) (us vs : List ShiftTurn) :
    s.play tr (us ++ vs) = (s.play tr us).play tr vs := List.foldl_append

theorem tolds_append (tr : Transport σ) (s : Shift σ) (us vs : List ShiftTurn) :
    s.tolds tr (us ++ vs) = s.tolds tr us ++ (s.play tr us).tolds tr vs := by
  induction us generalizing s with
  | nil => rfl
  | cons u us ih => simp only [List.cons_append, tolds, ih, play_cons, List.append_assoc]

end Shift

end ScanConsole
