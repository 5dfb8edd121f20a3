import AirMonitor.Co2Link

/-!
What is left of a bad time on the wire. Once every request is answered before the
next read ends and a read takes all that has come in, a call of `co2_read` returns
after a few reads, and the replies and calls are in step again.
-/

namespace AirMonitor.Co2
open Blocks

/-- Every request sent so far is answered. -/
def Link.settled (link : Link) (supply : Nat → Reply) : Link :=
  { link with replies := link.replies ++
      (List.range (link.requests.length - link.replies.length)).map supply }

/-- The answers come in, and a read of the call takes what there is. -/
def Link.round (supply : Nat → Reply) (link : Link) : Link :=
  match link.call with
  | none => link
  | some call => (link.settled supply).read call rxBufSize

/-- A row of rounds, each with answers of its own. -/
def Link.rounds : Nat → (Nat → Nat → Reply) → Link → Link
  | 0, _, link => link
  | count + 1, supplies, link =>
      (link.round (supplies 0)).rounds count fun later => supplies (later + 1)

/-- The bytes that the next read finds. -/
def Link.left (link : Link) : Nat := 9 * link.requests.length - link.consumed

variable (supply : Nat → Reply)

theorem settled_run (link : Link) : Runs link (link.settled supply) := by
  have some (count : Nat) (room : link.replies.length + count ≤ link.requests.length) :
      Runs link { link with replies := link.replies ++ (List.range count).map supply } := by
    induction count with
    | zero => simpa using Relation.ReflTransGen.refl
    | succ count ih =>
        have last := Step.answer { link with replies := link.replies ++ (List.range count).map supply }
          (supply count) (by simp only [List.length_append, List.length_map, List.length_range]; omega)
        rw [Link.answer, List.append_assoc] at last
        rw [List.range_succ, List.map_append]
        exact (ih (by omega)).tail last
  by_cases answered : link.requests.length ≤ link.replies.length
  · have none : link.requests.length - link.replies.length = 0 := by omega
    have same : link.settled supply = link := by
      rw [Link.settled, none]
      simp
    rw [same]
  · exact some _ (by omega)

theorem round_run (link : Link) : Runs link (link.round supply) := by
  rw [Link.round]
  cases running : link.call with
  | none => exact .refl
  | some call => exact (settled_run supply link).tail (.read _ call rxBufSize running)

theorem settled_replies (link : Link) (linked : Linked link) :
    (link.settled supply).replies.length = link.requests.length := by
  have answers := linked.answers
  simp only [Link.settled, List.length_append, List.length_map, List.length_range]
  omega

/-- A read after the answers finds all of them, up to the size of its buffer. -/
theorem settled_incoming (link : Link) (linked : Linked link) :
    ((link.settled supply).incoming rxBufSize).received.length = min link.left rxBufSize := by
  have replies := settled_replies supply link linked
  have same : (link.settled supply).consumed = link.consumed := rfl
  rw [incoming_received, window, List.length_take, List.length_drop, stream_length, replies, same,
    Link.left, Nat.min_self, Nat.min_comm]

/-! One round: it ends the call, it finds nothing and asks again, or it throws away
what it finds. -/

theorem round_linked (link : Link) (linked : Linked link) : Linked (link.round supply) :=
  runs_linked link _ linked (round_run supply link)

/-- In step: the call is over and every byte sent has been read. -/
structure Done (link : Link) : Prop where
  returned : link.call = none
  drained : link.left = 0

theorem round_taken (link : Link) (linked : Linked link) (call : Call)
    (running : link.call = some call) (value : Int)
    (taken : accepted ((link.settled supply).incoming rxBufSize) = some value) :
    Done (link.round supply) := by
  have found := settled_incoming supply link linked
  have nine := (accepted_incoming (link.settled supply) rxBufSize value taken).1
  have same : link.round supply = (link.settled supply).read call rxBufSize := by
    rw [Link.round, running]
  rw [same, read_taken _ call rxBufSize value taken]
  refine ⟨rfl, ?_⟩
  simp only [Link.left, Link.settled, rxBufSize] at nine found ⊢
  omega

def InCall (link : Link) : Prop := ∃ call, link.call = some call

theorem empty_timeout (link : Link) (count : Nat) (none : (link.incoming count).received.length = 0) :
    link.incoming count = .timeout := by
  rw [incoming_received] at none
  rw [Link.incoming, dif_neg]
  omega

theorem some_chunk (link : Link) (count : Nat) (more : 0 < (link.incoming count).received.length) :
    ∃ chunk, link.incoming count = .chunk chunk := by
  rw [incoming_received] at more
  rw [Link.incoming, dif_pos more]
  exact ⟨_, rfl⟩

/-- Nothing has come in: the request is sent again. -/
theorem round_asks (link : Link) (linked : Linked link) (call : Call)
    (running : link.call = some call) (empty : link.left = 0) :
    InCall (link.round supply) ∧ (link.round supply).left = 9 ∧
      (link.round supply).consumed % 9 = 0 := by
  have found := settled_incoming supply link linked
  rw [empty, Nat.zero_min] at found
  have quiet := empty_timeout _ _ found
  have same : link.round supply = (link.settled supply).read call rxBufSize := by
    rw [Link.round, running]
  have inside := linked.inside
  have answers := linked.answers
  rw [same, Link.read, quiet]
  simp only [Link.left] at empty ⊢
  refine ⟨⟨_, rfl⟩, ?_, ?_⟩
  · simp only [co2ReadPass, UartRead.received, Link.settled, Option.toList_some, List.length_append,
      List.length_cons, List.length_nil]
    omega
  · simp only [UartRead.received, Link.settled, List.length_nil]
    omega

/-- Bytes have come in that are no reply: they are thrown away. -/
theorem round_drops (link : Link) (linked : Linked link) (call : Call)
    (running : link.call = some call) (more : 0 < link.left)
    (refused : accepted ((link.settled supply).incoming rxBufSize) = none) :
    InCall (link.round supply) ∧ (link.round supply).left = link.left - rxBufSize := by
  have found := settled_incoming supply link linked
  have positive : 0 < ((link.settled supply).incoming rxBufSize).received.length := by
    rw [found, rxBufSize]
    omega
  obtain ⟨chunk, bytes⟩ := some_chunk _ _ positive
  have silent : (co2ReadPass call.data (.chunk chunk)).sendData = none := by
    simp only [co2ReadPass]
    split
    · split <;> rfl
    · rfl
  have same : link.round supply = (link.settled supply).read call rxBufSize := by
    rw [Link.round, running]
  have value := pass_value call.data ((link.settled supply).incoming rxBufSize)
  rw [refused] at value
  rw [bytes] at found value
  rw [same, Link.read, bytes]
  refine ⟨⟨_, by rw [value]⟩, ?_⟩
  simp only [Link.left, Link.settled, silent, Option.toList_none, List.append_nil, found, rxBufSize]
  omega

/-- One whole reply, and nothing else, is taken. -/
theorem round_whole (link : Link) (linked : Linked link) (call : Call)
    (running : link.call = some call) (nine : link.left = 9) (aligned : link.consumed % 9 = 0) :
    Done (link.round supply) := by
  have replies := settled_replies supply link linked
  have room : (link.settled supply).consumed + 9 ≤ 9 * (link.settled supply).replies.length := by
    rw [replies]
    simp only [Link.left] at nine
    show link.consumed + 9 ≤ _
    omega
  obtain ⟨value, taken⟩ := accepted_whole (link.settled supply) aligned room
  have whole : (link.settled supply).incoming rxBufSize = (link.settled supply).incoming 9 := by
    have short : (window (stream (link.settled supply).replies) (link.settled supply).consumed
        (min rxBufSize rxBufSize)) = window (stream (link.settled supply).replies)
          (link.settled supply).consumed (min 9 rxBufSize) := by
      have size := settled_incoming supply link linked
      rw [incoming_received, nine] at size
      rw [window, window] at *
      rw [List.take_of_length_le (by
        rw [List.length_take] at size
        simp only [rxBufSize] at size ⊢
        omega), List.take_of_length_le (by
        rw [List.length_take] at size
        simp only [rxBufSize] at size ⊢
        omega)]
    simp only [Link.incoming, short]
  rw [← whole] at taken
  exact round_taken supply link linked call running value taken

/-! Whole rows of rounds, by what is left. -/

theorem rounds_succ (count : Nat) (supplies : Nat → Nat → Reply) (link : Link) :
    link.rounds (count + 1) supplies =
      (link.round (supplies 0)).rounds count fun later => supplies (later + 1) := rfl

theorem whole_reply_done (supplies : Nat → Nat → Reply) (link : Link) (linked : Linked link)
    (running : InCall link) (nine : link.left = 9) (aligned : link.consumed % 9 = 0) :
    Done (link.rounds 1 supplies) := by
  obtain ⟨call, running⟩ := running
  rw [rounds_succ]
  exact round_whole (supplies 0) link linked call running nine aligned

theorem empty_done (supplies : Nat → Nat → Reply) (link : Link) (linked : Linked link)
    (running : InCall link) (empty : link.left = 0) : Done (link.rounds 2 supplies) := by
  obtain ⟨call, running⟩ := running
  obtain ⟨still, nine, aligned⟩ := round_asks (supplies 0) link linked call running empty
  rw [rounds_succ]
  exact whole_reply_done _ _ (round_linked (supplies 0) link linked) still nine aligned

theorem rounds_done (supplies : Nat → Nat → Reply) (link : Link) (linked : Linked link)
    (running : InCall link) :
    ∃ rounds, rounds ≤ link.left / rxBufSize + 3 ∧ Done (link.rounds rounds supplies) := by
  induction size : link.left using Nat.strongRecOn generalizing link supplies with
  | ind left ih =>
      simp only [rxBufSize] at ih ⊢
      have linked_next := round_linked (supplies 0) link linked
      by_cases empty : link.left = 0
      · exact ⟨2, by omega, empty_done supplies link linked running empty⟩
      · obtain ⟨call, running⟩ := running
        cases found : accepted ((link.settled (supplies 0)).incoming rxBufSize) with
        | some value =>
            exact ⟨1, by omega, round_taken (supplies 0) link linked call running value found⟩
        | none =>
            obtain ⟨still, fewer⟩ :=
              round_drops (supplies 0) link linked call running (Nat.pos_of_ne_zero empty) found
            simp only [rxBufSize] at fewer
            by_cases last : link.left ≤ 1024
            · have done := empty_done (fun later => supplies (later + 1)) _ linked_next still
                (by omega)
              exact ⟨3, by omega, by rw [rounds_succ]; exact done⟩
            · obtain ⟨rounds, bound, done⟩ := ih _ (by omega) (fun later => supplies (later + 1)) _
                linked_next still rfl
              exact ⟨rounds + 1, by omega, by rw [rounds_succ]; exact done⟩

theorem rounds_run (rounds : Nat) (supplies : Nat → Nat → Reply) (link : Link) :
    Runs link (link.rounds rounds supplies) := by
  induction rounds generalizing link supplies with
  | zero => exact .refl
  | succ rounds ih => exact (round_run (supplies 0) link).trans (ih _ _)

/-- From every state that a run can reach inside a call. -/
theorem call_recovers (supplies : Nat → Nat → Reply) (link : Link) (run : Runs Link.boot link)
    (running : InCall link) :
    ∃ rounds, rounds ≤ link.left / rxBufSize + 3 ∧
      let later := link.rounds rounds supplies
      Runs link later ∧ later.call = none ∧
        ∀ next ret, Runs later next → next.returns = ret :: later.returns →
          Fresh next.replies ret ∨ Straddled next.replies ret := by
  have linked := runs_linked Link.boot link boot_linked run
  obtain ⟨rounds, bound, done⟩ := rounds_done supplies link linked running
  have further := rounds_run rounds supplies link
  refine ⟨rounds, bound, further, done.returned, ?_⟩
  intro next ret later returned
  have drained := done.drained
  simp only [Link.left] at drained
  exact fresh_of_drained _ next (runs_linked _ _ linked further) done.returned (by omega) later ret
    returned

/-- A call that has read four bytes of the first reply. -/
def halfRead : Link :=
  ((Link.boot.enter blank).answer early).read ⟨0, 0, blank⟩ 4

theorem half_read_run : Runs Link.boot halfRead :=
  ((Relation.ReflTransGen.single (.enter Link.boot blank rfl)).tail
    (.answer _ early (by decide))).tail (.read _ ⟨0, 0, blank⟩ 4 rfl)

/-- The tail of the early reply is thrown away, and the request sent after it is
answered by the late one. -/
theorem call_recovers_half_read :
    halfRead.left = 5 ∧ ∃ rounds, rounds ≤ 3 ∧
      (halfRead.rounds rounds fun round _ => if round = 0 then early else late).call = none := by
  have left : halfRead.left = 5 := by decide +kernel
  refine ⟨left, ?_⟩
  have inCall : InCall halfRead := Option.isSome_iff_exists.mp (by decide +kernel)
  obtain ⟨rounds, bound, _, returned, _⟩ :=
    call_recovers (fun round _ => if round = 0 then early else late) halfRead half_read_run inCall
  rw [left] at bound
  exact ⟨rounds, bound, returned⟩

end AirMonitor.Co2
