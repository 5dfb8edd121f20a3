import Mathlib.Logic.Relation
import AirMonitor.Co2Frames

/-!
The UART link over many calls of `co2_read`. Requests and replies carry no
number and nothing empties the receive buffer, so the bytes of a late reply wait
for whichever call reads next. The history fields of `Call` and `Return` are
there to be spoken about; no step looks at them.
-/

namespace AirMonitor.Co2
open Blocks

structure Call where
  -- requests sent and reply bytes read before the call
  first : Nat
  start : Nat
  data : Buffer

structure Return where
  first : Nat
  start : Nat
  -- requests sent by the end of the call
  last : Nat
  -- where the accepted bytes begin in the stream of replies
  offset : Nat
  value : Int

/-- The reply at an index answers the request at that index. -/
structure Link where
  requests : List (List UInt8)
  replies : List Reply
  consumed : Nat
  call : Option Call
  returns : List Return

namespace Link

def boot : Link := ⟨[], [], 0, none, []⟩

def enter (link : Link) (data : Buffer) : Link :=
  { link with
    requests := link.requests ++ [cmd]
    call := some ⟨link.requests.length, link.consumed, data⟩ }

def answer (link : Link) (reply : Reply) : Link :=
  { link with replies := link.replies ++ [reply] }

theorem window_capped (link : Link) (count : Nat) :
    (window (stream link.replies) link.consumed (min count rxBufSize)).length ≤ rxBufSize := by
  rw [window, List.length_take]
  omega

/-- A read that ends when `count` more bytes have come in. -/
def incoming (link : Link) (count : Nat) : UartRead :=
  let bytes := window (stream link.replies) link.consumed (min count rxBufSize)
  if some : 0 < bytes.length then
    .chunk ⟨bytes, some, window_capped link count⟩
  else .timeout

def read (link : Link) (call : Call) (count : Nat) : Link :=
  let incoming := link.incoming count
  let pass := co2ReadPass call.data incoming
  { link with
    requests := link.requests ++ pass.sendData.toList
    consumed := link.consumed + incoming.received.length
    call := match pass.value with
      | some _ => none
      | none => some { call with data := pass.buffer }
    returns := match pass.value with
      | some value =>
          ⟨call.first, call.start, link.requests.length, link.consumed, value⟩ :: link.returns
      | none => link.returns }

end Link

inductive Step : Link → Link → Prop where
  | enter (link : Link) (data : Buffer) : link.call = none → Step link (link.enter data)
  | answer (link : Link) (reply : Reply) : link.replies.length < link.requests.length →
      Step link (link.answer reply)
  -- any number of the bytes on the wire come in before a read ends, also none
  | read (link : Link) (call : Call) (count : Nat) : link.call = some call →
      Step link (link.read call count)

abbrev Runs : Link → Link → Prop := Relation.ReflTransGen Step

/-- The value is the field of a whole reply, to a request already sent. -/
def Answered (replies : List Reply) (ret : Return) : Prop :=
  ret.offset % 9 = 0 ∧ ret.offset / 9 < ret.last ∧
    ∃ reply, replies[ret.offset / 9]? = some reply ∧ ret.value = ppm reply.1

/-- The value is the field of nine bytes across two replies, both to requests
already sent. -/
def Straddled (replies : List Reply) (ret : Return) : Prop :=
  Ghost replies ret.offset ∧ ret.offset / 9 + 1 < ret.last ∧
    ret.value = ppm (window (stream replies) ret.offset 9)

/-- And that request was sent by the same call. -/
def Fresh (replies : List Reply) (ret : Return) : Prop :=
  Answered replies ret ∧ ret.first ≤ ret.offset / 9

theorem incoming_received (link : Link) (count : Nat) :
    (link.incoming count).received =
      window (stream link.replies) link.consumed (min count rxBufSize) := by
  rw [Link.incoming]
  by_cases some : 0 < (window (stream link.replies) link.consumed (min count rxBufSize)).length
  · simp only [dif_pos some, UartRead.received]
  · simp only [dif_neg some, UartRead.received]
    exact (List.length_eq_zero_iff.mp (Nat.eq_zero_of_not_pos some)).symm

theorem incoming_length (link : Link) (count : Nat) (small : count ≤ rxBufSize)
    (room : link.consumed + count ≤ 9 * link.replies.length) :
    (link.incoming count).received.length = count := by
  rw [incoming_received, Nat.min_eq_left small, window, List.length_take, List.length_drop,
    stream_length]
  omega

theorem incoming_inside (link : Link) (count : Nat)
    (inside : link.consumed ≤ 9 * link.replies.length) :
    link.consumed + (link.incoming count).received.length ≤ 9 * link.replies.length := by
  rw [incoming_received, window, List.length_take, List.length_drop, stream_length]
  omega

/-- What a read is accepted for. -/
def Taken (link : Link) (value : Int) : Prop :=
  (Ghost link.replies link.consumed ∧
    value = ppm (window (stream link.replies) link.consumed 9)) ∨
  link.consumed % 9 = 0 ∧
    ∃ reply : Reply, link.replies[link.consumed / 9]? = some reply ∧ value = ppm reply.1

theorem accepted_incoming (link : Link) (count : Nat) (value : Int)
    (taken : accepted (link.incoming count) = some value) :
    (link.incoming count).received.length = 9 ∧ Taken link value := by
  obtain ⟨chunk, same, passed, rfl⟩ := (accepted_some_iff _ value).mp taken
  have bytes : chunk.1 = window (stream link.replies) link.consumed (min count rxBufSize) := by
    rw [← incoming_received, same, UartRead.received]
  have size : chunk.1.length = 9 := ((passes_iff chunk.1).mp passed).1
  have nine : chunk.1 = window (stream link.replies) link.consumed 9 := by
    rw [bytes, ← window_exact, ← bytes, size]
  refine ⟨by rw [same, UartRead.received, size], ?_⟩
  rw [nine] at passed
  rcases (window_passes_iff link.replies link.consumed (by rw [← nine, size])).mp passed with
    aligned | ghost
  · obtain ⟨reply, index, whole⟩ :=
      window_reply link.replies link.consumed aligned (by rw [← nine, size])
    exact .inr ⟨aligned, reply, index, by rw [whole, ← nine]⟩
  · exact .inl ⟨ghost, by rw [nine]⟩

theorem accepted_whole (link : Link) (aligned : link.consumed % 9 = 0)
    (room : link.consumed + 9 ≤ 9 * link.replies.length) :
    ∃ value, accepted (link.incoming 9) = some value := by
  have size := incoming_length link 9 (by decide) room
  have bytes := incoming_received link 9
  rw [bytes] at size
  cases read : link.incoming 9 with
  | error => rw [← bytes, read] at size; simp [UartRead.received] at size
  | timeout => rw [← bytes, read] at size; simp [UartRead.received] at size
  | chunk chunk =>
      rw [read, UartRead.received] at bytes
      refine ⟨_, (accepted_some_iff _ _).mpr ⟨chunk, rfl, ?_, rfl⟩⟩
      rw [bytes]
      exact (window_passes_iff link.replies link.consumed size).mpr (.inl aligned)

theorem accepted_sends (buffer : Buffer) (read : UartRead) (value : Int)
    (taken : accepted read = some value) : (co2ReadPass buffer read).sendData = none := by
  cases read with
  | error => simp [accepted] at taken
  | timeout => simp [accepted] at taken
  | chunk bytes =>
      simp only [co2ReadPass]
      split
      · split <;> rfl
      · rfl

theorem read_refused (link : Link) (call : Call) (count : Nat)
    (refused : accepted (link.incoming count) = none) :
    ∃ sent data, link.read call count = { link with
      requests := link.requests ++ sent
      consumed := link.consumed + (link.incoming count).received.length
      call := some { call with data := data } } := by
  let pass := co2ReadPass call.data (link.incoming count)
  refine ⟨pass.sendData.toList, pass.buffer, ?_⟩
  rw [Link.read, pass_value, refused]

theorem read_taken (link : Link) (call : Call) (count : Nat) (value : Int)
    (taken : accepted (link.incoming count) = some value) :
    link.read call count = { link with
      consumed := link.consumed + 9
      call := none
      returns :=
        ⟨call.first, call.start, link.requests.length, link.consumed, value⟩ :: link.returns } := by
  obtain ⟨size, _⟩ := accepted_incoming link count value taken
  rw [Link.read, pass_value, taken, accepted_sends call.data _ value taken, size]
  simp

theorem reply_kept (replies : List Reply) (last : Reply) (index : Nat) (reply : Reply)
    (found : replies[index]? = some reply) : (replies ++ [last])[index]? = some reply := by
  rwa [List.getElem?_append_left (List.getElem?_eq_some_iff.mp found).1]

theorem ghost_append (replies : List Reply) (reply : Reply) (offset : Nat)
    (ghost : Ghost replies offset) : Ghost (replies ++ [reply]) offset := by
  obtain ⟨left, right, first, second, straddles⟩ := ghost
  exact ⟨left, right, reply_kept _ _ _ _ first, reply_kept _ _ _ _ second, straddles⟩

/-- Both replies of the window have come in. -/
theorem ghost_inside (replies : List Reply) (offset : Nat) (ghost : Ghost replies offset) :
    offset / 9 + 1 < replies.length := by
  obtain ⟨_, _, _, second, _⟩ := ghost
  exact (List.getElem?_eq_some_iff.mp second).1

theorem window_append (replies : List Reply) (reply : Reply) (offset : Nat)
    (inside : offset / 9 + 1 < replies.length) :
    window (stream (replies ++ [reply])) offset 9 = window (stream replies) offset 9 := by
  have size := stream_length replies
  have split : stream (replies ++ [reply]) = stream replies ++ reply.1 := by simp [stream]
  rw [split, window, window, List.drop_append_of_le_length (by omega),
    List.take_append_of_le_length (by rw [List.length_drop]; omega)]

theorem straddled_append (replies : List Reply) (reply : Reply) (ret : Return)
    (straddled : Straddled replies ret) : Straddled (replies ++ [reply]) ret := by
  obtain ⟨ghost, sent, value⟩ := straddled
  have inside := ghost_inside replies ret.offset ghost
  exact ⟨ghost_append _ _ _ ghost, sent, by rw [value, window_append replies reply _ inside]⟩

theorem answered_append (replies : List Reply) (reply : Reply) (ret : Return)
    (answered : Answered replies ret) : Answered (replies ++ [reply]) ret := by
  obtain ⟨aligned, sent, found, index, value⟩ := answered
  exact ⟨aligned, sent, found, reply_kept _ _ _ _ index, value⟩

structure Linked (link : Link) : Prop where
  answers : link.replies.length ≤ link.requests.length
  inside : link.consumed ≤ 9 * link.replies.length
  done : ∀ ret ∈ link.returns, (Answered link.replies ret ∨ Straddled link.replies ret) ∧
    ret.offset + 9 ≤ link.consumed
  order : link.returns.Pairwise fun later earlier => earlier.offset + 9 ≤ later.offset

theorem taken_return (link : Link) (answers : link.replies.length ≤ link.requests.length)
    (call : Call) (value : Int) (taken : Taken link value) :
    let ret : Return := ⟨call.first, call.start, link.requests.length, link.consumed, value⟩
    Answered link.replies ret ∨ Straddled link.replies ret := by
  rcases taken with ⟨ghost, value⟩ | ⟨aligned, reply, index, same⟩
  · have inside := ghost_inside link.replies link.consumed ghost
    exact .inr ⟨ghost, Nat.lt_of_lt_of_le inside answers, value⟩
  · have inside : link.consumed / 9 < link.replies.length :=
      (List.getElem?_eq_some_iff.mp index).1
    exact .inl ⟨aligned, Nat.lt_of_lt_of_le inside answers, reply, index, same⟩

theorem linked_step (link next : Link) (linked : Linked link) (step : Step link next) :
    Linked next := by
  obtain ⟨answers, inside, done, order⟩ := linked
  cases step with
  | enter data =>
      exact ⟨by simp only [Link.enter, List.length_append]; omega, inside, done, order⟩
  | answer reply unanswered =>
      refine ⟨by simp [Link.answer]; omega, ?_, fun ret member => ?_, order⟩
      · simp only [Link.answer, List.length_append]
        omega
      · obtain ⟨source, before⟩ := done ret member
        exact ⟨source.imp (answered_append _ reply ret) (straddled_append _ reply ret), before⟩
  | read call count running =>
      have room := incoming_inside link count inside
      cases read : accepted (link.incoming count) with
      | none =>
          obtain ⟨sent, data, same⟩ := read_refused link call count read
          rw [same]
          refine ⟨by simp only [List.length_append]; omega, room, fun ret member => ?_, order⟩
          exact ⟨(done ret member).1, Nat.le_add_right_of_le (done ret member).2⟩
      | some value =>
          obtain ⟨size, taken⟩ := accepted_incoming link count value read
          rw [read_taken link call count value read]
          refine ⟨answers, size ▸ room, fun ret member => ?_, ?_⟩
          · rcases List.mem_cons.mp member with rfl | earlier
            · exact ⟨taken_return link answers call value taken, Nat.le_refl _⟩
            · exact ⟨(done ret earlier).1, Nat.le_add_right_of_le (done ret earlier).2⟩
          · exact List.pairwise_cons.mpr ⟨fun ret earlier => (done ret earlier).2, order⟩

theorem runs_linked (link next : Link) (linked : Linked link) (run : Runs link next) :
    Linked next := by
  induction run with
  | refl => exact linked
  | tail _ step ih => exact linked_step _ _ ih step

theorem boot_linked : Linked Link.boot :=
  ⟨Nat.le_refl _, Nat.le_refl _, by simp [Link.boot], List.Pairwise.nil⟩

/-- Where a run from an idle link stands with the next call. -/
inductive NextCall (link : Link) (later : Link) : Prop where
  | before (none : later.call = none) (same : later.requests = link.requests)
      (read : link.consumed ≤ later.consumed) (returns : later.returns = link.returns)
  | during (call : Call) (some : later.call = some call)
      (first : call.first = link.requests.length)
      (read : link.consumed ≤ later.consumed) (returns : later.returns = link.returns)
  | after (ret : Return) (first : ret.first = link.requests.length)
      (read : link.consumed ≤ ret.offset) (returns : later.returns = ret :: link.returns)
  | beyond (more : link.returns.length + 1 < later.returns.length)

theorem returns_grow (link next : Link) (step : Step link next) :
    next.returns = link.returns ∨ ∃ ret, next.returns = ret :: link.returns := by
  cases step with
  | enter data => exact .inl rfl
  | answer reply unanswered => exact .inl rfl
  | read call count running =>
      cases read : accepted (link.incoming count) with
      | none =>
          obtain ⟨sent, data, same⟩ := read_refused link call count read
          exact .inl (by rw [same])
      | some value => exact .inr ⟨_, by rw [read_taken link call count value read]⟩

theorem next_call_step (link later next : Link) (now : NextCall link later)
    (step : Step later next) : NextCall link next := by
  have grow := returns_grow later next step
  -- only `enter` starts the call and only a read taken ends it
  cases now with
  | before idle same read returns =>
      cases step with
      | enter data => exact .during _ rfl (by rw [same]) read returns
      | answer reply unanswered => exact .before idle same read returns
      | read call count running => simp [idle] at running
  | during call busy first read returns =>
      cases step with
      | enter data idle => simp [idle] at busy
      | answer reply unanswered => exact .during call busy first read returns
      | read other count running =>
          obtain rfl : call = other := Option.some.inj (busy.symm.trans running)
          cases incoming : accepted (later.incoming count) with
          | none =>
              obtain ⟨sent, data, same⟩ := read_refused later call count incoming
              rw [same]
              exact .during { call with data := data } rfl first
                (Nat.le_add_right_of_le read) returns
          | some value =>
              rw [read_taken later call count value incoming]
              exact .after ⟨call.first, call.start, later.requests.length, later.consumed, value⟩
                first read (by rw [returns])
  | after ret first read returns =>
      rcases grow with same | ⟨newer, same⟩
      · exact .after ret first read (same.trans returns)
      · exact .beyond (by simp [same, returns])
  | beyond more =>
      rcases grow with same | ⟨newer, same⟩
      · exact .beyond (by rwa [same])
      · exact .beyond (by rw [same, List.length_cons]; omega)

theorem next_call (link later : Link) (idle : link.call = none) (run : Runs link later) :
    NextCall link later := by
  induction run with
  | refl => exact .before idle rfl (Nat.le_refl _) rfl
  | tail _ step ih => exact next_call_step link _ _ ih step

theorem next_return (link later : Link) (idle : link.call = none) (run : Runs link later)
    (ret : Return) (returned : later.returns = ret :: link.returns) :
    ret.first = link.requests.length ∧ link.consumed ≤ ret.offset := by
  cases next_call link later idle run with
  | before _ _ _ returns => exact absurd (returned.symm.trans returns) (List.cons_ne_self _ _)
  | during _ _ _ _ returns => exact absurd (returned.symm.trans returns) (List.cons_ne_self _ _)
  | after other first read returns =>
      obtain rfl : ret = other := (List.cons.inj (returned.symm.trans returns)).1
      exact ⟨first, read⟩
  | beyond more => simp [returned] at more

/-- With no whole reply left over, the next call can only take a reply of its own. -/
theorem fresh_of_drained (link later : Link) (linked : Linked link) (idle : link.call = none)
    (drained : 9 * link.requests.length < link.consumed + 9) (run : Runs link later)
    (ret : Return) (returned : later.returns = ret :: link.returns) :
    Fresh later.replies ret ∨ Straddled later.replies ret := by
  obtain ⟨first, read⟩ := next_return link later idle run ret returned
  have done := (runs_linked link later linked run).done ret (by simp [returned])
  refine done.1.imp_left fun answered => ⟨answered, ?_⟩
  have aligned := answered.1
  omega

theorem answers_run (link : Link) (reply : Reply) (count : Nat)
    (room : link.replies.length + count ≤ link.requests.length) :
    Runs link { link with replies := link.replies ++ List.replicate count reply } := by
  induction count with
  | zero => simpa using Relation.ReflTransGen.refl
  | succ count ih =>
      have last := Step.answer { link with replies := link.replies ++ List.replicate count reply }
        reply (by simp only [List.length_append, List.length_replicate]; omega)
      rw [Link.answer, List.append_assoc, ← List.replicate_succ'] at last
      exact (ih (by omega)).tail last

theorem takes_whole (link : Link) (call : Call) (running : link.call = some call)
    (aligned : link.consumed % 9 = 0) (room : link.consumed + 9 ≤ 9 * link.replies.length) :
    ∃ later ret, Step link later ∧ later.returns = ret :: link.returns ∧
      ret.first = call.first ∧ ret.offset = link.consumed := by
  obtain ⟨value, taken⟩ := accepted_whole link aligned room
  have step := Step.read link call 9 running
  rw [read_taken link call 9 value taken] at step
  exact ⟨_, _, step, rfl, rfl, rfl⟩

/-- A running call can be given exactly the next whole reply in the stream. -/
theorem takes_next (link : Link) (call : Call) (running : link.call = some call) (index : Nat)
    (below : link.consumed ≤ 9 * index) (near : 9 * index < link.consumed + 9)
    (room : index < link.replies.length) :
    ∃ later ret, Runs link later ∧ later.returns = ret :: link.returns ∧
      ret.first = call.first ∧ ret.offset = 9 * index := by
  by_cases aligned : link.consumed = 9 * index
  · obtain ⟨later, ret, step, returned, first, offset⟩ :=
      takes_whole link call running (by omega) (by omega)
    exact ⟨later, ret, .single step, returned, first, offset.trans aligned⟩
  · -- the tail of a reply partly read is too short to be accepted
    have size := incoming_length link (9 * index - link.consumed)
      (by simp only [rxBufSize]; omega) (by omega)
    cases short : accepted (link.incoming (9 * index - link.consumed)) with
    | some value =>
        have nine := (accepted_incoming link _ value short).1
        omega
    | none =>
        obtain ⟨sent, data, same⟩ := read_refused link call _ short
        rw [size, Nat.add_sub_cancel' below] at same
        let next : Link := { link with
          requests := link.requests ++ sent
          consumed := 9 * index
          call := some { call with data := data } }
        have skip : Step link next := by
          have step := Step.read link call (9 * index - link.consumed) running
          rwa [same] at step
        obtain ⟨later, ret, step, returned, first, offset⟩ :=
          takes_whole next { call with data := data } rfl (Nat.mul_mod_right 9 index)
            (show 9 * index + 9 ≤ 9 * link.replies.length by omega)
        exact ⟨later, ret, .tail (.single skip) step, returned, first, offset⟩

/-- With a whole reply left over, the next call can return it. -/
theorem stale_of_left_over (link : Link) (linked : Linked link) (idle : link.call = none)
    (left : link.consumed + 9 ≤ 9 * link.requests.length) (reply : Reply) (data : Buffer) :
    ∃ later ret, Runs link later ∧ later.returns = ret :: link.returns ∧
      ¬ (Fresh later.replies ret ∨ Straddled later.replies ret) := by
  -- the first reply of which nothing has been read belongs to an earlier call
  let index := (link.consumed + 8) / 9
  have below : link.consumed ≤ 9 * index := by omega
  have near : 9 * index < link.consumed + 9 := by omega
  have answers := linked.answers
  let ready : Link := { link with
    replies := link.replies ++ List.replicate (index + 1 - link.replies.length) reply }
  have room : index < ready.replies.length := by
    simp only [ready, List.length_append, List.length_replicate]
    omega
  have answered : Runs link ready := answers_run link reply _ (by omega)
  have entered : Step ready (ready.enter data) := .enter ready data idle
  obtain ⟨later, ret, run, returned, first, offset⟩ :=
    takes_next (ready.enter data) ⟨link.requests.length, link.consumed, data⟩ rfl index
      below near room
  refine ⟨later, ret, (answered.tail entered).trans run, returned, ?_⟩
  rintro (⟨_, own⟩ | ⟨⟨_, _, _, _, apart, _⟩, _⟩)
  · rw [first, offset] at own
    simp only at own
    omega
  · omega

theorem returns_answer (link : Link) (run : Runs Link.boot link) :
    (∀ ret ∈ link.returns, Answered link.replies ret ∨ Straddled link.replies ret) ∧
      link.returns.Pairwise (fun later earlier => earlier.offset + 9 ≤ later.offset) ∧
      (link.call = none →
        ((∀ later ret, Runs link later → later.returns = ret :: link.returns →
            Fresh later.replies ret ∨ Straddled later.replies ret) ↔
          9 * link.requests.length < link.consumed + 9)) := by
  have linked := runs_linked Link.boot link boot_linked run
  refine ⟨fun ret member => (linked.done ret member).1, linked.order, fun idle => ?_⟩
  constructor
  · intro fresh
    by_contra left
    obtain ⟨later, ret, further, returned, stale⟩ := stale_of_left_over link linked idle
      (Nat.le_of_not_lt left) ⟨[0xFF, 0x86, 0, 0, 0, 0, 0, 0, 0x7A], by decide⟩ blank
    exact stale (fresh later ret further returned)
  · intro drained later ret further returned
    exact fresh_of_drained link later linked idle drained further ret returned

def early : Reply := ⟨[0xFF, 0x86, 0x01, 0x90, 0x00, 0x00, 0x00, 0x00, 0xE9], genuine_400⟩

def late : Reply := ⟨[0xFF, 0x86, 0x01, 0xF4, 0x00, 0x00, 0x00, 0x00, 0x85], by decide⟩

/-- The first call asks twice and returns the early reply; the second call returns
the late one before its own request is answered. -/
def staleLink : Link :=
  let first := ((Link.boot.enter blank).read ⟨0, 0, blank⟩ 0).answer early
  let second := ((first.read ⟨0, 0, blank⟩ 9).answer late).enter blank
  second.read ⟨2, 9, blank⟩ 9

theorem stale_run : Runs Link.boot staleLink := by
  have asked : Runs Link.boot ((Link.boot.enter blank).read ⟨0, 0, blank⟩ 0) :=
    .tail (.single (.enter _ blank rfl)) (.read _ ⟨0, 0, blank⟩ 0 rfl)
  have first := (asked.tail (.answer _ early (by decide))).tail (.read _ ⟨0, 0, blank⟩ 9 rfl)
  have second := (first.tail (.answer _ late (by decide))).tail (.enter _ blank rfl)
  exact second.tail (.read _ ⟨2, 9, blank⟩ 9 rfl)

theorem returns_answer_stale :
    (∀ later ret, Runs staleLink later → later.returns = ret :: staleLink.returns →
      Fresh later.replies ret ∨ Straddled later.replies ret) ↔
      9 * staleLink.requests.length < staleLink.consumed + 9 :=
  (returns_answer staleLink stale_run).2.2 rfl

theorem stale_returned :
    Runs Link.boot staleLink ∧
      staleLink.returns = [⟨2, 9, 3, 9, 500⟩, ⟨0, 0, 2, 0, 400⟩] ∧
      ∀ index reply, 2 ≤ index → staleLink.replies[index]? ≠ some reply := by
  refine ⟨stale_run, rfl, fun index reply own found => ?_⟩
  have inside : index < [early, late].length := (List.getElem?_eq_some_iff.mp found).1
  exact absurd inside (Nat.not_lt_of_le own)

end AirMonitor.Co2
