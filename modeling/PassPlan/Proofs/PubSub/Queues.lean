import PassPlan.PubSub.Broker
/-!
The broker is a set of bounded first-in first-out queues, one per subscription, as long as no
subscription is cancelled. A publish to an open broker appends its event to every buffer with
room and counts one drop for every full one; a receive takes the oldest buffered event; closing
the broker closes every channel and keeps what is buffered. So over any run of calls, what a
subscription received followed by what still waits for it is exactly the sequence of events
published while it was subscribed and the broker open, at moments when its buffer had room; the
drop count is the number of subscriptions that found a full buffer, summed over the publishes;
and after the broker is closed nothing arrives, each channel gives up what it buffered and then
reads as closed, a new subscription reads as closed at once, and closing again changes nothing.
Everything follows from what one call does to one buffer (`step_pendingOf`) and the invariant
`Sound`, kept by every call.
-/
namespace PassPlan.PubSub

variable {α : Type}

/-- The calls one goroutine makes on a broker, none of them cancelling a subscription. -/
inductive Call (α : Type) where
  | subscribe
  | publish (type : String) (payload : α)
  | receive (i : Nat)
  | close

/-- Whether a call subscribes. -/
def Call.isSubscribe : Call α → Bool
  | .subscribe => true
  | _ => false

/-- Whether a call closes the broker. -/
def Call.isClose : Call α → Bool
  | .close => true
  | _ => false

namespace Broker

/-- The events buffered for a subscription; none for one not yet made. -/
def pendingOf (b : Broker α) (i : Nat) : List (Event α) := (b.subs[i]?.map (·.pending)).getD []

/-- The broker after a call. -/
def call (b : Broker α) : Call α → Broker α
  | .subscribe => b.subscribe.1
  | .publish type payload => b.publish type payload
  | .receive i => (b.receive i).1
  | .close => b.close

/-- The broker after a run of calls. -/
def run (b : Broker α) (cs : List (Call α)) : Broker α := cs.foldl call b

/-- The event a call hands to subscription `i`: the one a receive from it finds. -/
def gives (b : Broker α) (i : Nat) : Call α → List (Event α)
  | .receive j =>
    if j = i then
      match (b.receive j).2 with
      | .event e => [e]
      | _ => []
    else []
  | _ => []

/-- The event a call buffers for subscription `i`: one published while the subscription is made
and the broker open, at a moment when fewer than the buffer size of its events wait. -/
def takes (b : Broker α) (i : Nat) : Call α → List (Event α)
  | .publish type payload =>
    if i < b.subs.length ∧ b.shut = false ∧ (b.pendingOf i).length < b.capacity then
      [⟨type, payload⟩]
    else []
  | _ => []

/-- How many subscriptions a call finds with a full buffer: for a publish to an open broker,
every subscription holding as many events as the buffer size. -/
def refusals (b : Broker α) : Call α → Nat
  | .publish _ _ =>
    if b.shut then 0 else (b.subs.filter fun s => b.capacity ≤ s.pending.length).length
  | _ => 0

/-- The events subscription `i` received over a run, in order. -/
def received (b : Broker α) (i : Nat) : List (Call α) → List (Event α)
  | [] => []
  | c :: cs => b.gives i c ++ (b.call c).received i cs

/-- The events subscription `i`'s channel took in over a run, in order. -/
def accepted (b : Broker α) (i : Nat) : List (Call α) → List (Event α)
  | [] => []
  | c :: cs => b.takes i c ++ (b.call c).accepted i cs

/-- The pairs of a subscription and a published event that found its buffer full, over a run. -/
def refused (b : Broker α) : List (Call α) → Nat
  | [] => 0
  | c :: cs => b.refusals c + (b.call c).refused cs

/-- What `n` receives in a row from subscription `i` find. -/
def receives (b : Broker α) (i : Nat) : Nat → List (Received α)
  | 0 => []
  | n + 1 => (b.receive i).2 :: (b.receive i).1.receives i n

/-- What holds of every broker reached without cancelling a subscription: a subscription's
channel is closed exactly when the broker is, and no buffer holds more than the buffer size. -/
structure Sound (b : Broker α) : Prop where
  closed : ∀ s ∈ b.subs, s.closed = b.shut
  bounded : ∀ s ∈ b.subs, s.pending.length ≤ b.capacity

/-! ### What each call does -/

section Deliver

variable (capacity : Nat) (e : Event α) (s : Subscription α) (d : Nat)

@[simp] theorem deliver_closed : (deliver capacity e (s, d)).1.closed = s.closed := by
  by_cases hc : s.closed <;> by_cases hl : s.pending.length < capacity <;> simp [deliver, hc, hl]

/-- Delivering appends the event to an open buffer with room. -/
@[simp] theorem deliver_pending : (deliver capacity e (s, d)).1.pending =
    if !s.closed && s.pending.length < capacity then s.pending ++ [e] else s.pending := by
  by_cases hc : s.closed <;> by_cases hl : s.pending.length < capacity <;> simp [deliver, hc, hl]

/-- Delivering counts a drop for an open buffer that is full. -/
theorem deliver_dropped : (deliver capacity e (s, d)).2 =
    d + if !s.closed && capacity ≤ s.pending.length then 1 else 0 := by
  by_cases hc : s.closed <;> by_cases hl : s.pending.length < capacity <;> simp [deliver, hc, hl]

theorem deliver_fst : (deliver capacity e (s, d)).1 = (deliver capacity e (s, 0)).1 := by
  by_cases hc : s.closed <;> by_cases hl : s.pending.length < capacity <;> simp [deliver, hc, hl]

/-- Publishing delivers to each subscription on its own, and counts the open ones that are full. -/
theorem foldr_deliverTo (subs : List (Subscription α)) (d : Nat) :
    subs.foldr (deliverTo capacity e) ([], d) =
      (subs.map fun s => (deliver capacity e (s, 0)).1,
        d + (subs.filter fun s => !s.closed && capacity ≤ s.pending.length).length) := by
  induction subs with
  | nil => rfl
  | cons s subs ih =>
    have hstep : ∀ (acc : List (Subscription α)) (n : Nat), deliverTo capacity e s (acc, n) =
        ((deliver capacity e (s, n)).1 :: acc, (deliver capacity e (s, n)).2) := fun _ _ => rfl
    rw [List.foldr_cons, ih, hstep, deliver_fst, deliver_dropped]
    -- a full open subscription adds one drop, any other adds none
    by_cases hfull : (!s.closed && capacity ≤ s.pending.length) = true
    · simp only [hfull, List.map_cons, List.filter_cons]
      simp
      omega
    · simp only [hfull, List.map_cons, List.filter_cons]
      simp

end Deliver

theorem call_subscribe (b : Broker α) :
    b.call .subscribe = { b with subs := b.subs ++ [{ closed := b.shut }] } := rfl

theorem call_close (b : Broker α) :
    b.call .close = { b with shut := true, subs := b.subs.map fun s => { s with closed := true } } :=
  rfl

theorem publish_of_shut {b : Broker α} (h : b.shut = true) (type : String) (payload : α) :
    b.publish type payload = b := by
  simp [publish, h]

theorem publish_of_open {b : Broker α} (h : b.shut = false) (type : String) (payload : α) :
    b.publish type payload =
      { b with
        subs := b.subs.map fun s => (deliver b.capacity ⟨type, payload⟩ (s, 0)).1,
        dropped := b.dropped +
          (b.subs.filter fun s => !s.closed && b.capacity ≤ s.pending.length).length } := by
  simp only [publish, h, foldr_deliverTo]
  rfl

/-- A receive either takes the first buffered event of a subscription, or finds none and leaves
the broker as it was. -/
theorem receive_cases (b : Broker α) (i : Nat) :
    (∃ s e rest, b.subs[i]? = some s ∧ s.pending = e :: rest ∧
      b.receive i = ({ b with subs := b.subs.set i { s with pending := rest } }, .event e)) ∨
    (b.pendingOf i = [] ∧ (b.receive i).1 = b ∧ ∀ e, (b.receive i).2 ≠ .event e) := by
  cases hs : b.subs[i]? with
  | none => exact .inr ⟨by simp [pendingOf, hs], by simp [receive, hs], by simp [receive, hs]⟩
  | some s =>
    cases hp : s.pending with
    | nil =>
      refine .inr ⟨by simp [pendingOf, hs, hp], by simp [receive, hs, hp], fun e => ?_⟩
      by_cases hc : s.closed <;> simp [receive, hs, hp, hc]
    | cons e rest => exact .inl ⟨s, e, rest, rfl, hp, by simp [receive, hs, hp]⟩

/-- A drained channel of a closed subscription reads as closed and leaves the broker as it was. -/
theorem receive_of_drained {b : Broker α} {i : Nat} {s : Subscription α} (hs : b.subs[i]? = some s)
    (hc : s.closed = true) (hp : s.pending = []) : b.receive i = (b, .closed) := by
  simp [receive, hs, hp, hc]

/-- A publish changes only the buffers, one for one, and the drop count. -/
theorem call_publish (b : Broker α) (type : String) (payload : α) :
    ∃ (subs : List (Subscription α)) (d : Nat), subs.length = b.subs.length ∧
      b.call (.publish type payload) = { b with subs := subs, dropped := d } := by
  by_cases hshut : b.shut
  · exact ⟨b.subs, b.dropped, rfl, publish_of_shut hshut type payload⟩
  · exact ⟨_, _, List.length_map _, publish_of_open (by simpa using hshut) type payload⟩

/-- A receive changes only the buffers, one for one. -/
theorem call_receive (b : Broker α) (i : Nat) :
    ∃ subs : List (Subscription α), subs.length = b.subs.length ∧
      b.call (.receive i) = { b with subs := subs } := by
  rcases receive_cases b i with ⟨s, e, rest, -, -, heq⟩ | ⟨-, heq, -⟩
  · exact ⟨b.subs.set i { s with pending := rest }, List.length_set, by simp [call, heq]⟩
  · exact ⟨b.subs, rfl, by simp [call, heq]⟩

@[simp] theorem run_nil (b : Broker α) : b.run [] = b := rfl

@[simp] theorem run_cons (b : Broker α) (c : Call α) (cs : List (Call α)) :
    b.run (c :: cs) = (b.call c).run cs := rfl

@[simp] theorem capacity_call (b : Broker α) (c : Call α) : (b.call c).capacity = b.capacity := by
  cases c with
  | subscribe => rfl
  | publish type payload =>
    obtain ⟨subs, d, -, heq⟩ := call_publish b type payload
    rw [heq]
  | receive i =>
    obtain ⟨subs, -, heq⟩ := call_receive b i
    rw [heq]
  | close => rfl

theorem shut_call (b : Broker α) (c : Call α) : (b.call c).shut = (b.shut || c.isClose) := by
  cases c with
  | subscribe => simp [call_subscribe, Call.isClose]
  | publish type payload =>
    obtain ⟨subs, d, -, heq⟩ := call_publish b type payload
    simp [heq, Call.isClose]
  | receive i =>
    obtain ⟨subs, -, heq⟩ := call_receive b i
    simp [heq, Call.isClose]
  | close => simp [call_close, Call.isClose]

theorem length_subs_call (b : Broker α) (c : Call α) :
    (b.call c).subs.length = b.subs.length + if c.isSubscribe then 1 else 0 := by
  cases c with
  | subscribe => simp [call_subscribe, Call.isSubscribe]
  | publish type payload =>
    obtain ⟨subs, d, hlen, heq⟩ := call_publish b type payload
    simp [heq, hlen, Call.isSubscribe]
  | receive i =>
    obtain ⟨subs, hlen, heq⟩ := call_receive b i
    simp [heq, hlen, Call.isSubscribe]
  | close => simp [call_close, Call.isSubscribe]

/-! ### The invariant -/

theorem sound_withBuffer (n : Nat) : Sound (withBuffer n : Broker α) :=
  ⟨by simp [withBuffer], by simp [withBuffer]⟩

/-- Every call keeps a broker sound. -/
theorem Sound.call {b : Broker α} (h : b.Sound) (c : Call α) : (b.call c).Sound := by
  cases c with
  | subscribe =>
    rw [call_subscribe]
    refine ⟨fun s hs => ?_, fun s hs => ?_⟩ <;> rcases List.mem_append.1 hs with hs | hs
    · exact h.closed s hs
    · rw [List.mem_singleton.1 hs]
    · exact h.bounded s hs
    · simp [List.mem_singleton.1 hs]
  | publish type payload =>
    cases hshut : b.shut
    · rw [Broker.call, publish_of_open hshut]
      refine ⟨fun s hs => ?_, fun s hs => ?_⟩ <;> obtain ⟨s₀, hs₀, rfl⟩ := List.mem_map.1 hs
      · simpa using h.closed s₀ hs₀
      · have := h.bounded s₀ hs₀
        simp only [deliver_pending]
        split
        · next hroom =>
          simp only [Bool.and_eq_true, decide_eq_true_eq] at hroom
          simp only [List.length_append, List.length_singleton]
          omega
        · exact this
    · rw [Broker.call, publish_of_shut hshut]
      exact h
  | receive i =>
    rcases receive_cases b i with ⟨s, e, rest, hs, hp, heq⟩ | ⟨-, heq, -⟩
    · have hmem := List.mem_of_getElem? hs
      rw [Broker.call, heq]
      refine ⟨fun s' hs' => ?_, fun s' hs' => ?_⟩ <;>
        rcases List.mem_or_eq_of_mem_set hs' with hs' | rfl
      · exact h.closed s' hs'
      · exact h.closed s hmem
      · exact h.bounded s' hs'
      · have := h.bounded s hmem
        rw [hp, List.length_cons] at this
        simp only
        omega
    · rw [Broker.call, heq]
      exact h
  | close =>
    rw [call_close]
    refine ⟨fun s hs => ?_, fun s hs => ?_⟩ <;> obtain ⟨s₀, hs₀, rfl⟩ := List.mem_map.1 hs
    · rfl
    · exact h.bounded s₀ hs₀

theorem Sound.run {b : Broker α} (h : b.Sound) : ∀ cs : List (Call α), (b.run cs).Sound
  | [] => h
  | c :: cs => (h.call c).run cs

theorem Sound.pendingOf_le {b : Broker α} (h : b.Sound) (i : Nat) :
    (b.pendingOf i).length ≤ b.capacity := by
  unfold pendingOf
  cases hs : b.subs[i]? with
  | none => simp
  | some s => exact h.bounded s (List.mem_of_getElem? hs)

/-- A sound broker counts as subscribers every subscription while it is open, and none once
closed. -/
theorem Sound.count_eq {b : Broker α} (h : b.Sound) : b.count = if b.shut then 0 else b.subs.length := by
  unfold count
  cases hshut : b.shut
  · rw [List.filter_congr fun s hs => by rw [h.closed s hs, hshut]]
    simp
  · rw [List.filter_congr fun s hs => by rw [h.closed s hs, hshut]]
    simp

/-! ### One buffer through one call -/

/-- What a call hands to a subscription, followed by what it leaves buffered, is what was
buffered followed by what the call buffers: each buffer is a queue. -/
theorem step_pendingOf {b : Broker α} (h : b.Sound) (c : Call α) (i : Nat) :
    b.gives i c ++ (b.call c).pendingOf i = b.pendingOf i ++ b.takes i c := by
  cases c with
  | subscribe =>
    simp only [gives, takes, call_subscribe, pendingOf, List.nil_append, List.append_nil]
    by_cases hi : i < b.subs.length
    · rw [List.getElem?_append_left hi]
    · have hnone : b.subs[i]? = none := List.getElem?_eq_none (by omega)
      rw [List.getElem?_append_right (by omega), hnone]
      by_cases he : i - b.subs.length = 0 <;> simp [he]
  | publish type payload =>
    simp only [gives, call, takes, List.nil_append]
    cases hshut : b.shut
    · rw [publish_of_open hshut]
      simp only [pendingOf, List.getElem?_map, true_and]
      cases hs : b.subs[i]? with
      | none =>
        have : ¬ i < b.subs.length := fun hi => by simp [List.getElem?_eq_getElem hi] at hs
        simp [this]
      | some s =>
        have hi : i < b.subs.length := (List.getElem?_eq_some_iff.1 hs).1
        have hc : s.closed = false := by rw [h.closed s (List.mem_of_getElem? hs), hshut]
        simp only [Option.map_some, Option.getD_some, hi, true_and, deliver_pending, hc]
        by_cases hroom : s.pending.length < b.capacity <;> simp [hroom]
    · simp [publish_of_shut hshut]
  | receive j =>
    simp only [gives, takes, call, List.append_nil]
    by_cases hji : j = i
    · subst hji
      rcases receive_cases b j with ⟨s, e, rest, hs, hp, heq⟩ | ⟨hnone, heq, hno⟩
      · have hj : j < b.subs.length := (List.getElem?_eq_some_iff.1 hs).1
        simp [heq, pendingOf, hs, hp, List.getElem?_set_self hj]
      · rw [heq, hnone]
        cases hr : (b.receive j).2 with
        | event e => exact absurd hr (hno e)
        | closed => simp
        | empty => simp
    · simp only [hji, ↓reduceIte, List.nil_append]
      rcases receive_cases b j with ⟨s, e, rest, hs, hp, heq⟩ | ⟨-, heq, -⟩
      · simp [heq, pendingOf, List.getElem?_set_ne hji]
      · rw [heq]
  | close =>
    simp only [gives, takes, call_close, pendingOf, List.getElem?_map, List.nil_append,
      List.append_nil]
    cases b.subs[i]? <;> rfl

/-- The drops a call counts are the subscriptions it finds full. -/
theorem dropped_call {b : Broker α} (h : b.Sound) (c : Call α) :
    (b.call c).dropped = b.dropped + b.refusals c := by
  cases c with
  | publish type payload =>
    cases hshut : b.shut
    · simp only [call, refusals, publish_of_open hshut, hshut, Bool.false_eq_true, ↓reduceIte]
      -- every subscription of an open broker is open, so the full ones are the full open ones
      refine congrArg (b.dropped + ·) (congrArg List.length (List.filter_congr fun s hs => ?_))
      simp [h.closed s hs, hshut]
    · simp [call, refusals, publish_of_shut hshut, hshut]
  | subscribe => simp [call_subscribe, refusals]
  | receive i =>
    obtain ⟨subs, -, heq⟩ := call_receive b i
    simp [heq, refusals]
  | close => simp [call_close, refusals]

/-! ### Whole runs -/

/-- Over a run, what a subscription received followed by what still waits for it is what waited
at the start followed by what its channel took in: the buffer is a first-in first-out queue. -/
theorem received_append_pendingOf {b : Broker α} (h : b.Sound) (i : Nat) :
    ∀ cs : List (Call α), b.received i cs ++ (b.run cs).pendingOf i = b.pendingOf i ++ b.accepted i cs
  | [] => by simp [received, accepted]
  | c :: cs => by
    have ih := received_append_pendingOf (h.call c) i cs
    calc b.received i (c :: cs) ++ (b.run (c :: cs)).pendingOf i
        = b.gives i c ++ ((b.call c).received i cs ++ ((b.call c).run cs).pendingOf i) := by
          simp [received]
      _ = (b.gives i c ++ (b.call c).pendingOf i) ++ (b.call c).accepted i cs := by
          rw [ih, List.append_assoc]
      _ = (b.pendingOf i ++ b.takes i c) ++ (b.call c).accepted i cs := by
          rw [step_pendingOf h c i]
      _ = b.pendingOf i ++ b.accepted i (c :: cs) := by simp [accepted]

/-- Over a run, the drop count grows by the subscriptions each publish found full. -/
theorem dropped_run {b : Broker α} (h : b.Sound) :
    ∀ cs : List (Call α), (b.run cs).dropped = b.dropped + b.refused cs
  | [] => rfl
  | c :: cs => by
    rw [run_cons, dropped_run (h.call c) cs, dropped_call h c, refused, Nat.add_assoc]

theorem shut_run (b : Broker α) : ∀ cs : List (Call α), (b.run cs).shut = (b.shut || cs.any (·.isClose))
  | [] => by simp
  | c :: cs => by rw [run_cons, shut_run (b.call c) cs, shut_call, List.any_cons, Bool.or_assoc]

theorem capacity_run (b : Broker α) : ∀ cs : List (Call α), (b.run cs).capacity = b.capacity
  | [] => rfl
  | c :: cs => by rw [run_cons, capacity_run (b.call c) cs, capacity_call]

theorem length_subs_run (b : Broker α) :
    ∀ cs : List (Call α), (b.run cs).subs.length = b.subs.length + cs.countP (·.isSubscribe)
  | [] => by simp
  | c :: cs => by
    rw [run_cons, length_subs_run (b.call c) cs, length_subs_call, List.countP_cons]
    omega

/-! ### After closing -/

/-- A subscription made after closing reads as closed at once. -/
theorem subscribe_of_shut {b : Broker α} (hshut : b.shut = true) :
    (b.subscribe.1.receive b.subscribe.2).2 = .closed := by
  simp [subscribe, receive, hshut]

section Closed

variable {b : Broker α} (h : b.Sound) (hshut : b.shut = true)
include h hshut

/-- Once the broker is closed, a subscription's channel gives up what it buffered, in order,
and then reads as closed on every later receive. -/
theorem receives_of_shut {i : Nat} (hi : i < b.subs.length) (n : Nat) :
    b.receives i ((b.pendingOf i).length + n) =
      (b.pendingOf i).map .event ++ List.replicate n .closed := by
  -- induction on what is buffered: each receive takes one event and keeps the broker closed
  generalize hp : b.pendingOf i = p
  induction p generalizing b with
  | nil =>
    obtain ⟨s, hs⟩ : ∃ s, b.subs[i]? = some s := ⟨b.subs[i], List.getElem?_eq_getElem hi⟩
    have hc : s.closed = true := by rw [h.closed s (List.mem_of_getElem? hs), hshut]
    have hsp : s.pending = [] := by simpa [pendingOf, hs] using hp
    have hdrained : ∀ k, b.receives i k = List.replicate k .closed := by
      intro k
      induction k with
      | zero => rfl
      | succ k ihk => simp [receives, receive_of_drained hs hc hsp, ihk, List.replicate_succ]
    simp [hdrained]
  | cons e rest ih =>
    rcases receive_cases b i with ⟨s, e', rest', hs, hsp, heq⟩ | ⟨hnone, -, -⟩
    · have hbuf : e' :: rest' = e :: rest := by simpa [pendingOf, hs, hsp] using hp
      obtain ⟨rfl, rfl⟩ := List.cons.inj hbuf
      have h' := h.call (.receive i)
      have hshut' : (b.call (.receive i)).shut = true := by simp [shut_call, hshut]
      have hi' : i < (b.call (.receive i)).subs.length := by simpa [length_subs_call, Call.isSubscribe]
      have hp' : (b.call (.receive i)).pendingOf i = rest' := by
        have := step_pendingOf h (.receive i) i
        simp only [gives, takes, ↓reduceIte, List.append_nil, heq, hp] at this
        simpa using this
      calc b.receives i ((e' :: rest').length + n)
          = .event e' :: (b.call (.receive i)).receives i (rest'.length + n) := by
            rw [List.length_cons, Nat.add_right_comm]
            simp [receives, call, heq]
        _ = (e' :: rest').map .event ++ List.replicate n .closed := by
            rw [ih h' hshut' hi' hp']
            simp
    · rw [hnone] at hp
      exact absurd hp (List.cons_ne_nil e rest).symm

/-- Closing a closed broker changes nothing. -/
theorem close_of_shut : b.close = b := by
  have hsubs : (b.subs.map fun s => { s with closed := true }) = b.subs := by
    conv => rhs; rw [← List.map_id b.subs]
    refine List.map_congr_left fun s hs => ?_
    have hc : s.closed = true := by rw [h.closed s hs, hshut]
    cases s
    simp_all
  cases b
  simp_all [close]

end Closed

/-- The broker is a set of bounded first-in first-out queues. Over any run of calls from a new
broker with buffer size `B`, none cancelling a subscription: what each subscription received,
followed by what still waits for it, is exactly the events published while it was subscribed
and the broker open at a moment when fewer than `B` of its events waited, in publish order, and
no more than `B` wait; the drop count is the number of subscriptions that found a full buffer,
summed over the publishes; the broker is closed once a close was called, and counts every
subscription until then and none after. Once closed, a publish changes nothing, each channel
gives up what it buffered and then reads as closed, a new subscription reads as closed, and
closing again changes nothing. -/
theorem run_boundedQueues (B : Nat) (cs : List (Call α)) :
    let b₀ : Broker α := withBuffer B
    let b := b₀.run cs
    (∀ i, b₀.received i cs ++ b.pendingOf i = b₀.accepted i cs ∧ (b.pendingOf i).length ≤ B) ∧
    b.dropped = b₀.refused cs ∧
    b.shut = cs.any (·.isClose) ∧
    b.count = (if b.shut then 0 else cs.countP (·.isSubscribe)) ∧
    (b.shut = true →
      (∀ type payload, b.publish type payload = b) ∧
      (∀ i n, i < b.subs.length →
        b.receives i ((b.pendingOf i).length + n) =
          (b.pendingOf i).map .event ++ List.replicate n .closed) ∧
      (b.subscribe.1.receive b.subscribe.2).2 = .closed ∧
      b.close = b) := by
  intro b₀ b
  have h₀ : b₀.Sound := sound_withBuffer B
  have h : b.Sound := h₀.run cs
  -- the new broker has no subscription, no drop, and is open
  have hlen : b.subs.length = cs.countP (·.isSubscribe) := (length_subs_run b₀ cs).trans (Nat.zero_add _)
  refine ⟨fun i => ⟨received_append_pendingOf h₀ i cs, Nat.le_trans (h.pendingOf_le i) (Nat.le_of_eq (capacity_run b₀ cs))⟩,
    (dropped_run h₀ cs).trans (Nat.zero_add _), shut_run b₀ cs, ?_, fun hshut =>
    ⟨publish_of_shut hshut, fun i n hi => receives_of_shut h hshut hi n,
      subscribe_of_shut hshut, close_of_shut h hshut⟩⟩
  rw [h.count_eq, hlen]

end Broker
end PassPlan.PubSub
