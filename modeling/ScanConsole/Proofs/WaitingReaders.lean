import Mathlib.Data.List.Forall2
import Mathlib.Data.List.Induction
import ScanConsole.Workers.Lock

/-!
# Which waiting readers are counted

The lock is fair, so the requests that wait are the last ones that have been
made (`queued_play`). A reader among them is counted if it found a writer
announced when it asked, and the count is the number of these: it is raised by
one when such a reader asks and lowered by one when it is granted the lock,
never below zero.

    waiting = the pending requests to read that found a writer announced
            ≤ the pending requests to read

Not every reader that waits has found a writer announced. A writer announces
itself when it asks and the announcement is withdrawn as soon as some writer is
granted the lock (`announced_iff`); a reader that asks while that writer has the
lock waits for it, but is not counted, even if another writer waits in front of
it. So the two sides of the inequality are the same exactly if each waiting
reader asked while a writer was announced (`waiting_counts_announced`).

## The induction

The induction is over the moves. After each of them nothing more can be granted
(`Idle`), so a move is its note in the queue and then the grants that follow
from it (`move_eq`, `grantFrom_eq`). The count is carried along both steps by
`Counts`: it is the number of the requests in the queue that are marked as
counted, all of which are requests to read.

What the marks mean is said of the moves before a request (`Asked.counted`) and
not of the state of the lock, which does not keep it. `Stands` ties the two: the
queue holds the last requests, each with the mark that it got when it asked.

Anybody may ask at any time, also several times, and may give back what has not
been granted. Then the request stays in the queue, marked as withdrawn, and is
granted and given back when its turn comes.
-/

namespace ScanConsole.Lock

/-! ## Moves

A move is noted first, and nobody is granted the lock by that. -/

/-- What can be done with a lock. -/
inductive Move where
  | ask (who : String) (access : Access)
  | giveBack (who : String)
  deriving DecidableEq, Repr

def move (l : Lock) : Move → Lock
  | .ask who access => l.request who access
  | .giveBack who => l.release who

def play (l : Lock) (moves : List Move) : Lock := moves.foldl move l

theorem play_concat (l : Lock) (moves : List Move) (m : Move) :
    l.play (moves ++ [m]) = (l.play moves).move m := by
  simp [play]

/-- The request of somebody who has given the lock back before being granted it. -/
def Request.withdrawnBy (who : String) (r : Request) : Request :=
  if r.who == who then { r with withdrawn := true } else r

/-- The lock after a move, before anybody is granted it. -/
def noted (l : Lock) : Move → Lock
  | .ask who .read =>
    { l with
      queue := l.queue ++ [⟨who, .read, l.announced, false⟩]
      waiting := if l.announced then l.waiting + 1 else l.waiting }
  | .ask who .write => { l with queue := l.queue ++ [⟨who, .write, false, false⟩], announced := true }
  | .giveBack who =>
    if l.holders.any fun h => h.who == who then { l with holders := l.holders.filter fun h => h.who != who }
    else { l with queue := l.queue.map (Request.withdrawnBy who) }

namespace Request

@[simp] theorem who_withdrawnBy (who : String) (r : Request) : (r.withdrawnBy who).who = r.who := by
  unfold withdrawnBy; split <;> rfl

@[simp] theorem access_withdrawnBy (who : String) (r : Request) :
    (r.withdrawnBy who).access = r.access := by
  unfold withdrawnBy; split <;> rfl

@[simp] theorem counted_withdrawnBy (who : String) (r : Request) :
    (r.withdrawnBy who).counted = r.counted := by
  unfold withdrawnBy; split <;> rfl

end Request

/-! ## Grants

The lock is granted to one after the other, as long as the next may have it, and
the rest of the queue stays. -/

section
variable {l : Lock} {queue : List Request}

/-- The requests of a queue that are granted, in their order. -/
def granted (l : Lock) : List Request → List Request
  | [] => []
  | r :: rest => if l.admits r.access then r :: (l.grant r).granted rest else []

/-- Nobody can be granted the lock. -/
def Idle (l : Lock) : Prop := ∀ r ∈ l.queue.head?, l.admits r.access = false

instance (l : Lock) : Decidable l.Idle := inferInstanceAs (Decidable (∀ r ∈ l.queue.head?, _))

theorem granted_prefix (l : Lock) (queue : List Request) : l.granted queue <+: queue := by
  induction queue generalizing l with
  | nil => exact List.nil_prefix
  | cons r rest ih =>
    rw [granted]
    split
    · exact List.cons_prefix_cons.mpr ⟨rfl, ih (l.grant r)⟩
    · exact List.nil_prefix

/-- The lock is granted to one after the other, and the rest of the queue stays. -/
theorem grantFrom_eq (l : Lock) (queue : List Request) :
    l.grantFrom queue =
      { (l.granted queue).foldl grant l with queue := queue.drop (l.granted queue).length } := by
  induction queue generalizing l with
  | nil => rfl
  | cons r rest ih =>
    rw [grantFrom, granted]
    split
    · exact ih (l.grant r)
    · rfl

theorem idle_grantFrom (l : Lock) (queue : List Request) : (l.grantFrom queue).Idle := by
  induction queue generalizing l with
  | nil =>
    intro r hr
    cases hr
  | cons r rest ih =>
    rw [grantFrom]
    split
    · exact ih (l.grant r)
    · next hnot =>
      intro r' hr'
      obtain rfl := Option.some.inj hr'
      exact Bool.eq_false_iff.mpr hnot

theorem settle_of_idle (h : l.Idle) : l.settle = l := by
  obtain ⟨writers, holders, queue, announced, waiting⟩ := l
  cases queue with
  | nil => rfl
  | cons r rest => exact if_neg (Bool.eq_false_iff.mp (h r rfl))

/-- A move is noted, and then the lock is granted to all to whom it can be. -/
theorem move_eq (h : l.Idle) (m : Move) : l.move m = (l.noted m).settle := by
  cases m with
  | ask who access => cases access <;> rfl
  | giveBack who =>
    show l.release who = _
    simp only [release, noted]
    split
    · rfl
    · show { l with queue := l.queue.map (Request.withdrawnBy who) } = _
      refine (settle_of_idle ?_).symm
      intro r hr
      rw [List.head?_map] at hr
      obtain ⟨r', hr', rfl⟩ := Option.map_eq_some_iff.mp hr
      rw [Request.access_withdrawnBy]
      exact h r' hr'

theorem idle_move (h : l.Idle) (m : Move) : (l.move m).Idle := by
  rw [move_eq h]
  exact idle_grantFrom _ _

theorem idle_play (moves : List Move) : (play {} moves).Idle := by
  induction moves using List.reverseRecOn with
  | nil =>
    intro r hr
    cases hr
  | append_singleton moves m ih =>
    rw [play_concat]
    exact idle_move ih m

/-! ## The count

As long as the count covers the grants, each counted one takes one from it. -/

/-- The count is the number of the requests marked as counted, all of them requests to read. -/
structure Counts (l : Lock) : Prop where
  waiting : l.waiting = l.queue.countP fun r => r.counted
  reads : ∀ r ∈ l.queue, r.counted = true → r.access = .read

theorem counts_noted (h : l.Counts) (m : Move) : (l.noted m).Counts := by
  cases m with
  | ask who access =>
    cases access with
    | read =>
      refine ⟨?_, ?_⟩
      · simp only [noted, List.countP_append, List.countP_singleton, ← h.waiting]
        split <;> rfl
      · intro r hr hcounted
        rcases List.mem_append.mp hr with hr | hr
        · exact h.reads r hr hcounted
        · rw [List.mem_singleton.mp hr]
    | write =>
      refine ⟨?_, ?_⟩
      · simp only [noted, List.countP_append, List.countP_singleton, ← h.waiting]
        rfl
      · intro r hr hcounted
        rcases List.mem_append.mp hr with hr | hr
        · exact h.reads r hr hcounted
        · rw [List.mem_singleton.mp hr] at hcounted
          cases hcounted
  | giveBack who =>
    simp only [noted]
    split
    · exact ⟨h.waiting, h.reads⟩
    · refine ⟨?_, ?_⟩
      · simp only [List.countP_map, h.waiting, Function.comp_def, Request.counted_withdrawnBy]
      · intro r hr hcounted
        obtain ⟨r', hr', rfl⟩ := List.mem_map.mp hr
        rw [Request.counted_withdrawnBy] at hcounted
        rw [Request.access_withdrawnBy]
        exact h.reads r' hr' hcounted

theorem waiting_foldl_grant {rs : List Request} (hreads : ∀ r ∈ rs, r.counted = true → r.access = .read)
    {rest : Nat} (h : l.waiting = rs.countP (fun r => r.counted) + rest) :
    (rs.foldl grant l).waiting = rest := by
  induction rs generalizing l with
  | nil => simpa using h
  | cons r rs ih =>
    obtain ⟨hread, hreads⟩ := List.forall_mem_cons.mp hreads
    refine ih hreads ?_
    rw [List.countP_cons] at h
    unfold grant
    cases hcounted : r.counted with
    | true =>
      rw [hread hcounted]
      simp only [hcounted, if_true] at h ⊢
      omega
    | false =>
      simp only [hcounted, Bool.false_eq_true, if_false] at h
      cases r.access with
      | read => exact h
      | write => exact h

theorem counts_settle (h : l.Counts) : l.settle.Counts := by
  obtain ⟨rest, hqueue⟩ := granted_prefix l l.queue
  have hwaiting := h.waiting
  have hreads := h.reads
  rw [settle, grantFrom_eq]
  generalize l.granted l.queue = gs at hqueue
  rw [← hqueue] at hwaiting hreads ⊢
  rw [List.countP_append] at hwaiting
  rw [List.drop_left]
  rw [List.forall_mem_append] at hreads
  exact ⟨waiting_foldl_grant hreads.1 hwaiting, hreads.2⟩

theorem counts_play (moves : List Move) : (play {} moves).Counts := by
  induction moves using List.reverseRecOn with
  | nil => exact ⟨rfl, fun r hr => by cases hr⟩
  | append_singleton moves m ih =>
    rw [play_concat, move_eq (idle_play moves)]
    exact counts_settle (counts_noted ih m)

/-- Whenever a counted reader is granted the lock, the count is positive. -/
theorem waiting_pos_of_counted (h : l.Counts) {before after : List Request} {r : Request}
    (hgranted : l.granted l.queue = before ++ r :: after) (hcounted : r.counted = true) :
    0 < (before.foldl grant l).waiting := by
  obtain ⟨rest, hqueue⟩ := granted_prefix l l.queue
  have hwaiting := h.waiting
  have hreads := h.reads
  rw [← hqueue, hgranted, List.append_assoc] at hwaiting hreads
  rw [List.countP_append] at hwaiting
  rw [waiting_foldl_grant (List.forall_mem_append.mp hreads).1 hwaiting, List.cons_append, List.countP_cons,
    if_pos hcounted]
  exact Nat.succ_pos _

end

/-! ## Announcements

A grant to a writer withdraws the announcement. Writers who have been granted
the lock are kept in a list, so nobody has been granted it in between if the
list has not grown. -/

section
variable {l : Lock}

theorem announced_foldl_grant (rs : List Request) (l : Lock) :
    (rs.foldl grant l).writers = l.writers ++ (rs.filter fun r => r.access == .write).map (·.who) ∧
      ((rs.foldl grant l).announced = true ↔
        l.announced = true ∧ (rs.filter fun r => r.access == .write) = []) := by
  induction rs generalizing l with
  | nil => simp
  | cons r rs ih =>
    obtain ⟨hwriters, hannounced⟩ := ih (l.grant r)
    rw [List.foldl_cons, hwriters, hannounced]
    cases haccess : r.access with
    | read => simp [grant, haccess]
    | write => simp [grant, haccess]

def Move.writes : Move → Bool
  | .ask _ .write => true
  | _ => false

theorem noted_announced (l : Lock) (m : Move) :
    (l.noted m).writers = l.writers ∧ (l.noted m).announced = (m.writes || l.announced) := by
  cases m with
  | ask who access => cases access <;> exact ⟨rfl, rfl⟩
  | giveBack who =>
    simp only [noted]
    split <;> exact ⟨rfl, rfl⟩

/-- The writers who have been granted the lock stay, and there is an announcement if nobody has been added and
there was one, or one is made. -/
theorem announced_move (h : l.Idle) (m : Move) :
    l.writers <+: (l.move m).writers ∧
      ((l.move m).announced = true ↔
        (m.writes = true ∨ l.announced = true) ∧ (l.move m).writers = l.writers) := by
  obtain ⟨hnoted, hannounced⟩ := noted_announced l m
  obtain ⟨hwriters, hiff⟩ := announced_foldl_grant ((l.noted m).granted (l.noted m).queue) (l.noted m)
  rw [move_eq h, settle, grantFrom_eq, hiff, hwriters, hnoted, hannounced, Bool.or_eq_true,
    List.append_right_eq_self, List.map_eq_nil_iff]
  exact ⟨List.prefix_append _ _, Iff.rfl⟩

/-- Some writer has asked, and since before that nobody has been granted the lock to write. -/
def WriterAsked (moves : List Move) : Prop :=
  ∃ before who after, moves = before ++ .ask who .write :: after ∧
    (play {} before).writers = (play {} moves).writers

theorem writers_play_prefix (moves later : List Move) :
    (play {} moves).writers <+: (play {} (moves ++ later)).writers := by
  induction later using List.reverseRecOn with
  | nil => exact ⟨[], by rw [List.append_nil, List.append_nil]⟩
  | append_singleton later m ih =>
    rw [← List.append_assoc, play_concat]
    exact ih.trans (announced_move (idle_play _) m).1

/-- There is an announcement as long as nobody is granted the lock to write after a writer has asked. -/
theorem announced_iff (moves : List Move) : (play {} moves).announced = true ↔ WriterAsked moves := by
  induction moves using List.reverseRecOn with
  | nil =>
    constructor
    · intro h
      cases h
    · rintro ⟨before, who, after, h, -⟩
      simp at h
  | append_singleton moves m ih =>
    rw [play_concat, (announced_move (idle_play moves) m).2, ih]
    constructor
    · rintro ⟨hasked | ⟨before, who, after, rfl, hsame⟩, hwriters⟩
      · obtain ⟨who, rfl⟩ : ∃ who, m = .ask who .write := by
          cases m with
          | ask who access =>
            cases access with
            | read => cases hasked
            | write => exact ⟨who, rfl⟩
          | giveBack who => cases hasked
        exact ⟨moves, who, [], rfl, by rw [play_concat, hwriters]⟩
      · exact ⟨before, who, after ++ [m], by simp, by rw [play_concat, hwriters, hsame]⟩
    · rintro ⟨before, who, after, hmoves, hsame⟩
      rw [play_concat] at hsame
      rcases List.eq_nil_or_concat' after with rfl | ⟨after, m', rfl⟩
      · obtain ⟨rfl, rfl⟩ : moves = before ∧ m = .ask who .write := by simpa using hmoves
        exact ⟨.inl rfl, hsame.symm⟩
      · obtain ⟨rfl, rfl⟩ : moves = before ++ .ask who .write :: after ∧ m = m' := by
          rw [← List.cons_append, ← List.append_assoc] at hmoves
          simpa using List.append_inj' hmoves rfl
        -- what comes between is squeezed: the writers only ever grow
        have hbefore := writers_play_prefix before (.ask who .write :: after)
        have hafter := (announced_move (idle_play (before ++ .ask who .write :: after)) m).1
        rw [← hsame] at hafter
        have heq := hbefore.eq_of_length_le hafter.length_le
        exact ⟨.inr ⟨before, who, after, rfl, heq⟩, by rw [← hsame, heq]⟩

end

/-! ## The requests that wait

A request is the moves before it, who asked, and for what. -/

/-- A request for the lock, with all moves before it. -/
structure Asked where
  past : List Move
  who : String
  access : Access

namespace Asked

/-- The request is one to read and finds a writer announced. -/
def counted (a : Asked) : Bool := a.access == .read && (play {} a.past).announced

/-- The request stands in the queue like this. -/
structure Stands (a : Asked) (r : Request) : Prop where
  who : r.who = a.who
  access : r.access = a.access
  counted : r.counted = a.counted

end Asked

/-- The requests among some moves, behind those of the past. -/
def asks (past : List Move) : List Move → List Asked
  | [] => []
  | .ask who access :: rest => ⟨past, who, access⟩ :: asks (past ++ [.ask who access]) rest
  | .giveBack who :: rest => asks (past ++ [.giveBack who]) rest

theorem asks_append (past moves later : List Move) :
    asks past (moves ++ later) = asks past moves ++ asks (past ++ moves) later := by
  induction moves generalizing past with
  | nil => simp [asks]
  | cons m moves ih =>
    cases m with
    | ask who access => simp [asks, ih]
    | giveBack who => simp [asks, ih]

/-- The lock is granted in the order of the requests: those that wait are the last that have been made. -/
theorem queued_play (moves : List Move) :
    ∃ served pending, asks [] moves = served ++ pending ∧
      List.Forall₂ Asked.Stands pending (play {} moves).queue := by
  induction moves using List.reverseRecOn with
  | nil => exact ⟨[], [], rfl, .nil⟩
  | append_singleton moves m ih =>
    obtain ⟨served, pending, hasks, hstands⟩ := ih
    have hnoted : List.Forall₂ Asked.Stands (pending ++ asks moves [m]) ((play {} moves).noted m).queue := by
      cases m with
      | ask who access =>
        cases access with
        | read => exact List.rel_append hstands (.cons ⟨rfl, rfl, rfl⟩ .nil)
        | write => exact List.rel_append hstands (.cons ⟨rfl, rfl, rfl⟩ .nil)
      | giveBack who =>
        simp only [asks, List.append_nil, noted]
        split
        · exact hstands
        · refine List.forall₂_map_right_iff.mpr (hstands.imp fun a r h => ?_)
          exact ⟨by simpa using h.who, by simpa using h.access, by simpa using h.counted⟩
    rw [play_concat, move_eq (idle_play moves), settle, grantFrom_eq, asks_append, List.nil_append, hasks]
    generalize (((play {} moves).noted m).granted ((play {} moves).noted m).queue).length = n
    refine ⟨served ++ (pending ++ asks moves [m]).take n, (pending ++ asks moves [m]).drop n, ?_,
      List.forall₂_drop n hnoted⟩
    rw [List.append_assoc, List.append_assoc, List.take_append_drop]

/-! ## The count and the waiting readers

All requests to read are counted just if each of them has found a writer
announced. -/

namespace Asked

theorem counted_of_stands {pending : List Asked} {queue : List Request}
    (h : List.Forall₂ Stands pending queue) :
    (queue.countP fun r => r.counted) = pending.countP counted := by
  induction h with
  | nil => rfl
  | cons h _ ih => rw [List.countP_cons, List.countP_cons, ih, h.counted]

theorem names_of_stands {pending : List Asked} {queue : List Request}
    (h : List.Forall₂ Stands pending queue) :
    (pending.map fun a => (a.who, a.access)) = queue.map fun r => (r.who, r.access) := by
  induction h with
  | nil => rfl
  | cons h _ ih => rw [List.map_cons, List.map_cons, ih, h.who, h.access]

def reads (a : Asked) : Bool := a.access == .read

theorem counted_iff (a : Asked) : a.counted = true ↔ a.reads = true ∧ WriterAsked a.past := by
  rw [counted, Bool.and_eq_true, announced_iff, reads]

theorem countP_counted (pending : List Asked) :
    pending.countP counted ≤ pending.countP reads ∧
      (pending.countP counted = pending.countP reads ↔
        ∀ a ∈ pending, a.reads = true → WriterAsked a.past) := by
  have hcounted : pending.countP counted = (pending.filter reads).countP counted := by
    rw [List.countP_filter]
    refine List.countP_congr fun a _ => ?_
    rw [Bool.and_eq_true, counted_iff]
    exact ⟨fun h => ⟨h, h.1⟩, fun h => h.1⟩
  rw [hcounted, List.countP_eq_length_filter (p := reads), List.countP_eq_length, List.forall_mem_filter]
  refine ⟨List.countP_le_length, forall₂_congr fun a _ => ?_⟩
  rw [counted_iff]
  exact ⟨fun h hreads => (h hreads).2, fun h hreads => ⟨hreads, h hreads⟩⟩

end Asked

/-- Whatever has been done with a lock, nobody can be granted it then, and those who wait are the last who have
asked. The count of waiting readers is the number of those readers among them who have asked after a writer with
nobody granted the lock to write in between: of all readers that wait if each of them has, and of fewer otherwise.
It is zero if no reader waits, and whenever a reader who is counted is granted the lock it is positive. -/
theorem waiting_counts_announced (moves : List Move) :
    let l := play {} moves
    l.Idle ∧
    (∃ served pending, asks [] moves = served ++ pending ∧
      (pending.map fun a => (a.who, a.access)) = (l.queue.map fun r => (r.who, r.access)) ∧
      (∀ a ∈ pending, a.counted = true ↔ a.reads = true ∧ WriterAsked a.past) ∧
      l.waiting = pending.countP Asked.counted ∧
      l.waiting ≤ pending.countP Asked.reads ∧
      (l.waiting = pending.countP Asked.reads ↔ ∀ a ∈ pending, a.reads = true → WriterAsked a.past)) ∧
    ∀ m before r after, (l.noted m).granted (l.noted m).queue = before ++ r :: after → r.counted = true →
      0 < (before.foldl grant (l.noted m)).waiting := by
  intro l
  obtain ⟨served, pending, hasks, hstands⟩ := queued_play moves
  have hcount : l.waiting = pending.countP Asked.counted :=
    (counts_play moves).waiting.trans (Asked.counted_of_stands hstands)
  obtain ⟨hle, hall⟩ := Asked.countP_counted pending
  rw [← hcount] at hle hall
  refine ⟨idle_play moves, ⟨served, pending, hasks, Asked.names_of_stands hstands, fun a _ => a.counted_iff,
    hcount, hle, hall⟩, ?_⟩
  intro m before r after hgranted hcounted
  exact waiting_pos_of_counted (counts_noted (counts_play moves) m) hgranted hcounted

/-- A reader that has asked while one writer has the lock and another has asked for it is granted the lock when
the second writer gives it back. -/
theorem waiting_counts_announced_second_writer :
    let moves : List Move := [.ask "a" .write, .ask "b" .write, .ask "c" .read, .giveBack "a"]
    let l := (play {} moves).noted (.giveBack "b")
    l.granted l.queue = [] ++ ⟨"c", .read, true, false⟩ :: [] ∧ 0 < (List.foldl grant l []).waiting := by
  intro moves l
  have hgranted : l.granted l.queue = [] ++ ⟨"c", .read, true, false⟩ :: [] := by decide
  exact ⟨hgranted, (waiting_counts_announced moves).2.2 (.giveBack "b") [] _ [] hgranted rfl⟩

/-- A reader waits for the writer who has the lock, and the count is zero. -/
theorem reader_waits_uncounted :
    let l := play {} [.ask "a" .write, .ask "b" .read]
    l.Idle ∧ l.waiting ≠ l.queue.countP fun r => r.access == .read := by
  decide

end ScanConsole.Lock
