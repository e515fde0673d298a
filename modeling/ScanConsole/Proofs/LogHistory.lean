import Mathlib.Data.List.DropRight
import ScanConsole.Log.Buffer
import ScanConsole.Proofs.Chunking

/-!
# The log and all that was written to it

The buffer keeps the latest lines only, and counts how many of them are unread.
What it answers can be said of the whole history all the same
(`log_keeps_newest`). With `written past` for all lines that were ever written,
cut at the requests for fresh lines,

    written past = written p₁ ++ … ++ written pₙ ++ written open

a request for all gets the newest lines of the whole, the requests for fresh
lines got the newest of each `written pᵢ`, and the next one gets the newest of
the open piece. `newest` takes as many lines as the buffer keeps.

So two requests for fresh lines never give the same line, and one can only be
missing in their answers that is gone from the buffer too: what they gave ends
with the lines that are still kept, each of them once (`exists_kept`).

The invariant is `Buffer.Holds`: the buffer has the newest of all lines, and as
many of them are unread as have been written since the last request for the
fresh ones, as long as they are kept. The induction is over the requests
(`Holds.serveAll`). It assumes nothing about the requests. What is written is
bytes, which need not be UTF-8 and need not end with a line.
-/

namespace ScanConsole.Log

open EventStream (closedPieces closedPieces_of_open closedPieces_append_cons dropReturn_eq)

/-! ## The last piece

A list cut at the members with a property has a last piece, which is open: the
next member of the property closes it. -/

section
variable {α : Type} {p : α → Bool}

/-- What stands behind the last separator of a list. -/
def openPiece (p : α → Bool) (xs : List α) : List α := (xs.splitOnP p).getLast?.getD []

theorem openPiece_of_open {piece : List α} (h : ∀ x ∈ piece, p x = false) : openPiece p piece = piece := by
  rw [openPiece, List.splitOnP_eq_singleton h]
  rfl

theorem openPiece_append_cons {piece : List α} {x : α} (h : ∀ y ∈ piece, p y = false)
    (hx : p x = true) (rest : List α) : openPiece p (piece ++ x :: rest) = openPiece p rest := by
  rw [openPiece, List.splitOnP_append_cons_of_forall_mem h x hx,
    List.getLast?_cons_of_ne_nil (List.splitOnP_ne_nil p rest)]
  rfl

end

/-! ## What has been written

The buffer goes through the bytes once, with the line that is open at hand
(`linesFrom_eq`). The same lines are those between the line feeds of the text
(`cutLines`). -/

/-- A line without the carriage return at its end. -/
def withoutReturn (line : List Char) : List Char :=
  if line.getLast? = some '\r' then line.dropLast else line

/-- A text cut at every line feed; a carriage return before one goes with it. -/
def cutLines (text : List Char) : List (List Char) :=
  (closedPieces (fun c => c == '\n') text).map withoutReturn ++ [openPiece (fun c => c == '\n') text]

/-- The lines of some bytes that show anything, with their secrets masked. -/
def shownLines (bytes : List UInt8) : List String :=
  ((cutLines (Text.Utf8.decodeLossy bytes)).filter fun l => !Text.allBlank l).map fun l =>
    String.ofList (mask l)

example : (cutLines "one\r\n\ntwo\r".toList).map String.ofList = ["one", "", "two\r"] := by decide

theorem cutLines_of_open {piece : List Char} (h : ∀ c ∈ piece, (c == '\n') = false) :
    cutLines piece = [piece] := by
  rw [cutLines, closedPieces_of_open h, openPiece_of_open h]
  rfl

theorem cutLines_append_cons {piece : List Char} (h : ∀ c ∈ piece, (c == '\n') = false)
    (rest : List Char) : cutLines (piece ++ '\n' :: rest) = withoutReturn piece :: cutLines rest := by
  rw [cutLines, closedPieces_append_cons h rfl, openPiece_append_cons h rfl]
  rfl

/-- The lines that are finished, and behind them those of the open line and the rest. -/
theorem linesFrom_eq (done : List (List Char)) {current : List Char}
    (h : ∀ c ∈ current, (c == '\n') = false) (rest : List Char) :
    (Text.linesFrom done current rest).filter (fun l => !Text.allBlank l) =
      (done.reverse ++ cutLines (current.reverse ++ rest)).filter fun l => !Text.allBlank l := by
  induction rest generalizing done current with
  | nil =>
    rw [List.append_nil, cutLines_of_open fun c hc => h c (List.mem_reverse.mp hc)]
    cases current with
    | nil => simp [Text.linesFrom, Text.allBlank]
    | cons c current => simp [Text.linesFrom]
  | cons c rest ih =>
    by_cases hc : c = '\n'
    · subst hc
      rw [Text.linesFrom, ih _ (by simp), cutLines_append_cons fun c hc => h c (List.mem_reverse.mp hc),
        dropReturn_eq]
      simp [withoutReturn]
    · have hnext : ∀ d ∈ c :: current, (d == '\n') = false := by
        intro d hd
        rcases List.mem_cons.mp hd with rfl | hd
        · simpa using hc
        · exact h d hd
      rw [Text.linesFrom, ih done hnext]
      · simp
      · exact hc

theorem linesOf_eq (bytes : List UInt8) : Buffer.linesOf bytes = shownLines bytes := by
  rw [Buffer.linesOf, shownLines, Text.lines, linesFrom_eq [] (by simp)]
  rfl

namespace Buffer

/-- A request for the lines since this was asked last. -/
def Request.isFresh : Request → Bool
  | .fresh => true
  | _ => false

def Request.isWrite : Request → Bool
  | .write _ => true
  | _ => false

def Request.written : Request → List String
  | .write bytes => shownLines bytes
  | _ => []

/-- The lines that several requests write, in their order. -/
def written (requests : List Request) : List String := requests.flatMap Request.written

/-- The answer to a request for the lines since this was asked last. -/
def Reply.fresh? : Reply → Option String
  | .fresh text => some text
  | _ => none

/-- As many lines as the buffer keeps, from the newest on. -/
def newest (lines : List String) : List String := lines.reverse.take bufferLimit

/-! ## What the buffer holds

A request for fresh lines leaves none unread, and any other those that it writes
itself. -/

/-- The buffer after all these lines, the last of which are still unread. -/
structure Holds (b : Buffer) (all fresh : List String) : Prop where
  lines : b.lines = newest all
  unread : b.unread = min bufferLimit fresh.length
  suffix : fresh <:+ all

theorem holds_empty : Holds {} [] [] := ⟨rfl, rfl, List.suffix_refl _⟩

theorem Request.eq_fresh {r : Request} (h : r.isFresh) : r = .fresh := by
  cases r with
  | fresh => rfl
  | _ => cases h

theorem noFresh_nil : ∀ r ∈ ([] : List Request), r.isFresh = false := by simp

section
variable {b : Buffer} {all fresh : List String}

theorem Holds.unreadLines (h : b.Holds all fresh) : b.unreadLines = newest fresh := by
  obtain ⟨before, rfl⟩ := h.suffix
  have hwithin : min (min bufferLimit fresh.length) bufferLimit ≤ fresh.reverse.length := by
    rw [List.length_reverse]
    omega
  rw [Buffer.unreadLines, h.lines, h.unread, newest, newest, List.reverse_append, List.take_take,
    List.take_append_of_le_length hwithin, List.take_eq_take_iff, List.length_reverse]
  omega

theorem Holds.append (h : b.Holds all fresh) (more : List String) :
    (b.append more).Holds (all ++ more) (fresh ++ more) where
  lines := by
    simp only [Buffer.append, h.lines, newest, List.reverseAux_eq, List.reverse_append, List.take_append,
      List.take_take]
    rw [Nat.min_eq_left (Nat.sub_le _ _)]
  unread := by
    simp only [Buffer.append, h.unread, List.length_append]
    omega
  suffix := by
    obtain ⟨before, rfl⟩ := h.suffix
    exact ⟨before, (List.append_assoc ..).symm⟩

theorem Holds.markRead (h : b.Holds all fresh) : b.markRead.Holds all [] :=
  ⟨h.lines, rfl, List.nil_suffix⟩

theorem Holds.serve (h : b.Holds all fresh) (r : Request) :
    (b.serve r).2.Holds (all ++ r.written) (if r.isFresh then [] else fresh ++ r.written) := by
  cases r with
  | write bytes =>
    rw [show (b.serve (.write bytes)).2 = b.append (shownLines bytes) by
      rw [← linesOf_eq]
      rfl]
    exact h.append _
  | fresh =>
    rw [show Request.fresh.written = [] from rfl, List.append_nil]
    exact h.markRead
  | all =>
    rw [show Request.all.written = [] from rfl, List.append_nil, List.append_nil]
    exact h

/-- The answers of a buffer that has the lines of `piece` unread, and what it holds after them. -/
theorem Holds.serveAll {piece : List Request} (hpiece : ∀ r ∈ piece, r.isFresh = false)
    (h : b.Holds all (written piece)) (requests : List Request) :
    (b.serveAll requests).2.Holds (all ++ written requests)
        (written (openPiece Request.isFresh (piece ++ requests))) ∧
      (b.serveAll requests).1.filterMap Reply.fresh? =
        (closedPieces Request.isFresh (piece ++ requests)).map fun p => textOf (newest (written p)) := by
  induction requests generalizing b all piece with
  | nil =>
    rw [List.append_nil, openPiece_of_open hpiece, closedPieces_of_open hpiece]
    refine ⟨?_, rfl⟩
    rw [show all ++ written [] = all from List.append_nil all]
    exact h
  | cons r requests ih =>
    have hserve := h.serve r
    have hall : all ++ written (r :: requests) = all ++ r.written ++ written requests :=
      (List.append_assoc ..).symm
    rw [hall]
    cases hr : r.isFresh with
    | true =>
      rw [if_pos hr] at hserve
      obtain ⟨hholds, hreplies⟩ := ih noFresh_nil hserve
      rw [openPiece_append_cons hpiece hr, closedPieces_append_cons hpiece hr]
      refine ⟨hholds, ?_⟩
      obtain rfl := Request.eq_fresh hr
      have hreply : (b.serve .fresh).1.fresh? = some (textOf (newest (written piece))) :=
        congrArg (fun lines => some (textOf lines)) h.unreadLines
      rw [Buffer.serveAll, List.filterMap_cons_some hreply, List.map_cons]
      exact congrArg _ hreplies
    | false =>
      rw [hr, if_neg Bool.false_ne_true] at hserve
      have hnext : ∀ r' ∈ piece ++ [r], r'.isFresh = false :=
        List.forall_mem_append.mpr ⟨hpiece, List.forall_mem_singleton.mpr hr⟩
      have hwritten : written (piece ++ [r]) = written piece ++ r.written := by simp [written]
      rw [← hwritten] at hserve
      obtain ⟨hholds, hreplies⟩ := ih hnext hserve
      rw [List.append_cons piece r requests]
      refine ⟨hholds, ?_⟩
      have hreply : (b.serve r).1.fresh? = none := by
        cases r with
        | fresh => cases hr
        | _ => rfl
      rw [Buffer.serveAll, List.filterMap_cons_none hreply]
      exact hreplies

end

/-! ## Lines that are kept

The newest lines of all pieces, one behind the other, end with the newest lines
of the whole. Those before them are lines that the whole has before, not all of
them: of a long piece only the last are taken. -/

theorem flatten_pieces_append {piece : List Request} (hpiece : ∀ r ∈ piece, r.isFresh = false)
    (rest : List Request) :
    (((piece ++ rest).splitOnP Request.isFresh).map written).flatten = written (piece ++ rest) := by
  induction rest generalizing piece with
  | nil => simp [List.splitOnP_eq_singleton hpiece]
  | cons r rest ih =>
    cases hr : r.isFresh with
    | true =>
      have hrest := ih noFresh_nil
      rw [List.nil_append] at hrest
      obtain rfl := Request.eq_fresh hr
      rw [List.splitOnP_append_cons_of_forall_mem hpiece .fresh hr, List.map_cons, List.flatten_cons, hrest]
      simp [written, Request.written]
    | false =>
      rw [List.append_cons]
      exact ih (List.forall_mem_append.mpr ⟨hpiece, List.forall_mem_singleton.mpr hr⟩)

theorem flatten_pieces (requests : List Request) :
    ((requests.splitOnP Request.isFresh).map written).flatten = written requests :=
  flatten_pieces_append noFresh_nil requests

/-- The last members of a list, in their order, and those before them. -/
theorem exists_last {α : Type} (n : Nat) (xs : List α) :
    ∃ init, xs = init ++ (xs.reverse.take n).reverse ∧ (xs.reverse.take n).reverse.length = min n xs.length := by
  refine ⟨(xs.reverse.drop n).reverse, ?_, by simp⟩
  rw [← List.reverse_append, List.take_append_drop, List.reverse_reverse]

/-- From each piece of a list its last members are taken. What is taken ends with the last members of the whole
list, each of them once, and has before them only such as are not among these. -/
theorem exists_kept {α : Type} (n : Nat) (pieces : List (List α)) :
    ∃ older gone kept, pieces.flatten = gone ++ kept ∧ kept.length = min n pieces.flatten.length ∧
      (pieces.map fun p => (p.reverse.take n).reverse).flatten = older ++ kept ∧ older.Sublist gone := by
  induction pieces with
  | nil => exact ⟨[], [], [], rfl, by simp, rfl, .slnil⟩
  | cons piece pieces ih =>
    obtain ⟨older, gone, kept, hall, hlength, htaken, hsub⟩ := ih
    obtain ⟨init, hpiece, hlast⟩ := exists_last n piece
    simp only [List.flatten_cons, List.map_cons, htaken, hall]
    generalize (piece.reverse.take n).reverse = last at hpiece hlast
    subst hpiece
    simp only [List.length_append, hall] at hlength hlast ⊢
    by_cases hfull : n ≤ gone.length + kept.length
    · -- The later pieces fill what is kept, and so nothing of this one is.
      refine ⟨last ++ older, init ++ last ++ gone, kept, by simp, by omega, by simp, ?_⟩
      exact (List.sublist_append_right init last).append hsub
    · -- All of the later pieces is kept, and of this one as much as there is room for.
      obtain rfl : gone = [] := List.eq_nil_of_length_eq_zero (by omega)
      obtain rfl : older = [] := List.sublist_nil.mp hsub
      obtain ⟨out, hsplit, hroom⟩ := exists_last (n - kept.length) last
      generalize (last.reverse.take (n - kept.length)).reverse = room at hsplit hroom
      subst hsplit
      refine ⟨out, init ++ out, room ++ kept, by simp, ?_, by simp, List.sublist_append_right init out⟩
      simp only [List.length_append, List.length_nil] at hlast hroom hfull ⊢
      omega

theorem take_reverse_of_length {α : Type} {n : Nat} {xs gone kept : List α} (hall : xs = gone ++ kept)
    (hlength : kept.length = min n xs.length) : xs.reverse.take n = kept.reverse := by
  subst hall
  rw [List.length_append] at hlength
  rw [List.reverse_append, List.take_append, List.length_reverse,
    List.take_of_length_le (by rw [List.length_reverse]; omega)]
  refine (congrArg (kept.reverse ++ ·) ?_).trans (List.append_nil _)
  rw [List.take_eq_nil_iff, List.reverse_eq_nil_iff, ← List.length_eq_zero_iff (l := gone)]
  omega

/-- Whatever a buffer has been asked before: all its lines are the newest of all lines that have been written,
and the fresh ones the newest of those that have been written since these were asked for last. It takes all
bytes, and only they change what it keeps. What the requests for fresh lines have been answered, together with
the answer to the next one, ends with the lines that are kept, each of them once; all before them has gone. -/
theorem log_keeps_newest (past : List Request) :
    let b := (serveAll {} past).2
    let pieces := past.splitOnP Request.isFresh
    (b.serve .all).1 = .all (textOf (newest (written past))) ∧
    (serveAll {} past).1.filterMap Reply.fresh? =
      pieces.dropLast.map (fun p => textOf (newest (written p))) ∧
    (b.serve .fresh).1 = .fresh (textOf (newest (written (openPiece Request.isFresh past)))) ∧
    (∀ bytes, (b.serve (.write bytes)).1 = .taken bytes.length) ∧
    (∀ r, r.isWrite = false → ((b.serve r).2.serve .all).1 = (b.serve .all).1) ∧
    ∃ older gone, written past = gone ++ b.lines.reverse ∧
      (pieces.map fun p => (newest (written p)).reverse).flatten = older ++ b.lines.reverse ∧
      older.Sublist gone := by
  intro b pieces
  obtain ⟨hholds, hreplies⟩ := holds_empty.serveAll noFresh_nil past
  rw [List.nil_append] at hholds hreplies
  refine ⟨congrArg (Reply.all ∘ textOf) hholds.lines, hreplies,
    congrArg (Reply.fresh ∘ textOf) hholds.unreadLines, fun _ => rfl, ?_, ?_⟩
  · intro r hr
    cases r with
    | write bytes => cases hr
    | _ => rfl
  · obtain ⟨older, gone, kept, hall, hlength, htaken, hsub⟩ := exists_kept bufferLimit (pieces.map written)
    rw [flatten_pieces] at hall hlength
    rw [List.map_map] at htaken
    have hkept : b.lines.reverse = kept := by
      rw [hholds.lines, newest, take_reverse_of_length hall hlength, List.reverse_reverse]
    rw [hkept]
    exact ⟨older, gone, hall, htaken, hsub⟩

end Buffer

end ScanConsole.Log
