import PagedResults.Proofs.Routing

/-! # What a receiver gets out of its channel

The two ends of a channel move in any order: deliveries are handed in, the end that hands them in goes away,
and the receiver calls, either with a limit for its waiting or without one. What the receiver gets follows
from what was handed in alone: everything up to the first final delivery, one after the other, then nothing
any more. An end that goes away before a final delivery is heard as one failure behind the rest. The two calls
of the receiver do the same, and one that waited in vain changes nothing.

`Progress` relates a channel to the whole of what was handed in and to the whole of what the receiver got. One
move keeps it, hence so does any number of them.
-/

namespace PagedResults

namespace Delivery

/-- What the call that takes a delivery returns. -/
def answer : Delivery → Outcome Error (Option Response)
  | message response _ => .ok (some response)
  | failure cause => Outcome.fail cause

/-- All that a receiver is to get: what was handed in up to the first final delivery or, where there is none
and the feeding end is gone, everything and then that the connection is closed. -/
def script (pushed : List Delivery) (gone : Bool) : List Delivery :=
  upToFinal pushed ++ if gone && !pushed.any isFinal then [.failure .connectionClosed] else []

private theorem upToFinal_append {front : List Delivery} (rest : List Delivery)
    (unended : ∀ delivery ∈ front, delivery.isFinal = false) :
    upToFinal (front ++ rest) = front ++ upToFinal rest := by
  induction front with
  | nil => rfl
  | cons delivery front ih =>
    rw [List.cons_append, upToFinal, unended delivery List.mem_cons_self, if_neg Bool.false_ne_true,
      ih fun other member => unended other (List.mem_cons_of_mem _ member), List.cons_append]

private theorem upToFinal_eq_nil {deliveries : List Delivery} (nothing : upToFinal deliveries = []) :
    deliveries = [] := by
  cases deliveries with
  | nil => rfl
  | cons delivery rest =>
    rw [upToFinal] at nothing
    split at nothing <;> contradiction

private theorem any_isFinal_eq_false {deliveries : List Delivery}
    (unended : ∀ delivery ∈ deliveries, delivery.isFinal = false) : deliveries.any isFinal = false :=
  List.any_eq_false.mpr fun delivery member => by rw [unended delivery member]; exact Bool.false_ne_true

/-- An end that goes away is as good as one that hands in a last failure. -/
theorem script_eq_upToFinal (pushed : List Delivery) (gone : Bool) :
    script pushed gone = upToFinal (pushed ++ if gone then [.failure .connectionClosed] else []) := by
  unfold script
  cases gone with
  | false => rw [Bool.false_and, if_neg Bool.false_ne_true, List.append_nil, List.append_nil]
  | true =>
    rw [Bool.true_and, if_pos rfl]
    induction pushed with
    | nil => rfl
    | cons delivery rest ih =>
      rw [List.cons_append, upToFinal, upToFinal, List.any_cons]
      cases delivery.isFinal with
      | true => rfl
      | false => rw [Bool.false_or, if_neg Bool.false_ne_true, if_neg Bool.false_ne_true, List.cons_append, ih]

end Delivery

namespace Channel

/-- What happens at the two ends of a channel. -/
inductive Move where
  /-- A delivery is handed in. -/
  | push (delivery : Delivery)
  /-- The feeding end goes away. -/
  | finish
  /-- The receiver waits for at most `limit`. -/
  | receive (limit : Duration)
  /-- The receiver waits for as long as it takes. -/
  | next
deriving DecidableEq, Repr

/-- A move of the receiver. -/
def Move.isCall : Move → Bool
  | receive _ | next => true
  | push _ | finish => false

/-- The two are the same, but for the way in which the receiver calls. -/
def Move.Alike (first second : Move) : Prop := first = second ∨ first.isCall = true ∧ second.isCall = true

/-- What is handed in, in this order. -/
def Move.pushed (moves : List Move) : List Delivery :=
  moves.filterMap fun
    | push delivery => some delivery
    | _ => none

/-- The channel after a move, and what the receiver got if it was the one that moved. -/
def play (channel : Channel) : Move → Option (Outcome Error (Option Response)) × Channel
  | .push delivery => (none, channel.push delivery)
  | .finish => (none, channel.finish)
  | .receive limit => ((channel.receive limit).1, (channel.receive limit).2)
  | .next => (channel.next.1, channel.next.2)

/-- The channel after several moves. -/
def after (channel : Channel) (moves : List Move) : Channel :=
  moves.foldl (fun channel move => (channel.play move).2) channel

/-- Nothing is there for the receiver, but something may still come. -/
def Waits (channel : Channel) : Prop := channel.done = false ∧ channel.queue = [] ∧ channel.fed = true

instance (channel : Channel) : Decidable channel.Waits :=
  inferInstanceAs (Decidable (channel.done = false ∧ channel.queue = [] ∧ channel.fed = true))

/-- What the receiver gets from its calls, one after the other, without those that wait in vain. -/
def received (channel : Channel) : List Move → List (Outcome Error (Option Response))
  | [] => []
  | move :: moves =>
      (if channel.Waits then [] else (channel.play move).1.toList) ++ received (channel.play move).2 moves

/-- Only an end that is still there hands in something or goes away, and the receiver waits without a limit
only where it need not wait. -/
def Allows (channel : Channel) : Move → Prop
  | .push _ | .finish => channel.fed = true
  | .receive _ => True
  | .next => ¬channel.Waits

/-- Every move is allowed when its turn comes. -/
def Legal : Channel → List Move → Prop
  | _, [] => True
  | channel, move :: moves => channel.Allows move ∧ Legal (channel.play move).2 moves

instance (channel : Channel) : (move : Move) → Decidable (channel.Allows move)
  | .push _ | .finish => inferInstanceAs (Decidable (channel.fed = true))
  | .receive _ => inferInstanceAs (Decidable True)
  | .next => inferInstanceAs (Decidable (¬channel.Waits))

instance decidableLegal : (channel : Channel) → (moves : List Move) → Decidable (channel.Legal moves)
  | _, [] => inferInstanceAs (Decidable True)
  | channel, move :: moves =>
      have := decidableLegal (channel.play move).2 moves
      inferInstanceAs (Decidable (channel.Allows move ∧ Legal (channel.play move).2 moves))

variable {channel : Channel}

/-- A call that waits in vain changes nothing. -/
theorem receive_of_waits (waits : channel.Waits) (limit : Duration) :
    channel.receive limit = (Outcome.fail (.timeout 0 limit), channel) := by
  obtain ⟨done_eq, empty, fed_eq⟩ := waits
  have nothing : channel.take? = none := by
    unfold take?
    rw [done_eq, empty, fed_eq]
    rfl
  rw [receive, nothing]

/-- The two calls of a receiver that need not wait are the same one. -/
theorem receive_eq_next (ready : ¬channel.Waits) (limit : Duration) : channel.receive limit = channel.next := by
  rw [receive, next]
  split
  · next => rfl
  · next nothing =>
    refine absurd ?_ ready
    unfold take? at nothing
    split at nothing
    · contradiction
    · next undone =>
      split at nothing
      · contradiction
      · contradiction
      · next empty =>
        split at nothing
        · next feeding => exact ⟨Bool.eq_false_iff.mpr undone, empty, feeding⟩
        · contradiction

private theorem next_of_done (done_eq : channel.done = true) : channel.next = (.ok none, channel) := by
  rw [next, take?, if_pos done_eq]
  rfl

private theorem next_of_held {delivery : Delivery} {rest : List Delivery} (undone : channel.done = false)
    (held : channel.queue = delivery :: rest) :
    channel.next = (delivery.answer, { channel with queue := rest, done := delivery.isFinal }) := by
  rw [next, take?, if_neg (Bool.eq_false_iff.mp undone), held]
  cases delivery with
  | message response last => rfl
  | failure cause => rfl

private theorem next_of_gone (undone : channel.done = false) (empty : channel.queue = [])
    (unfed : channel.fed = false) :
    channel.next = (Outcome.fail .connectionClosed, { channel with done := true }) := by
  rw [next, take?, if_neg (Bool.eq_false_iff.mp undone), empty]
  dsimp only
  rw [if_neg (Bool.eq_false_iff.mp unfed)]
  rfl

/-- Where it is of no account which call the receiver uses, its moves come to the same. -/
theorem play_call {move : Move} (call : move.isCall = true) (ready : ¬channel.Waits) :
    channel.play move = (some channel.next.1, channel.next.2) := by
  cases move with
  | push delivery => contradiction
  | finish => contradiction
  | receive limit => rw [play, receive_eq_next ready]
  | next => rfl

private theorem play_waiting {move : Move} (call : move.isCall = true) (allowed : channel.Allows move)
    (waits : channel.Waits) : (channel.play move).2 = channel := by
  cases move with
  | push delivery => contradiction
  | finish => contradiction
  | receive limit => rw [play, receive_of_waits waits]
  | next => exact absurd waits allowed

/-- What the receiver is told behind all that was handed in. -/
def farewell (channel : Channel) : List Delivery :=
  if channel.fed then [] else [.failure .connectionClosed]

private theorem waits_iff : channel.Waits ↔ channel.done = false ∧ channel.queue ++ channel.farewell = [] := by
  unfold Waits farewell
  rw [List.append_eq_nil_iff]
  cases channel.fed <;> simp

/-- The next call returns the first of what the channel holds, which may be the farewell alone. -/
theorem next_answer {delivery : Delivery} {rest : List Delivery} (undone : channel.done = false)
    (coming : channel.queue ++ channel.farewell = delivery :: rest) : channel.next.1 = delivery.answer := by
  match held : channel.queue with
  | first :: others =>
    rw [held, List.cons_append] at coming
    rw [next_of_held undone held, (List.cons.inj coming).1]
  | [] =>
    rw [held, List.nil_append, farewell] at coming
    split at coming
    · contradiction
    · next unfed =>
      rw [next_of_gone undone held (Bool.eq_false_iff.mpr unfed), ← (List.cons.inj coming).1]
      rfl

/-- How far a receiver has come that got `got`, where `pushed` was handed in. -/
inductive Progress (channel : Channel) :
    (pushed : List Delivery) → (got : List (Outcome Error (Option Response))) → Prop
  /-- No final delivery was taken yet, and the channel holds the rest. -/
  | underway {taken : List Delivery} (undone : channel.done = false)
      (unended : ∀ delivery ∈ taken, delivery.isFinal = false) :
      Progress channel (taken ++ channel.queue) (taken.map Delivery.answer)
  /-- The first final delivery was taken, and nothing came behind it. -/
  | finished {pushed taken rest : List Delivery} {final : Delivery} (calls : Nat) (done_eq : channel.done = true)
      (unended : ∀ delivery ∈ taken, delivery.isFinal = false) (ended : final.isFinal = true)
      (all : pushed ++ channel.farewell = taken ++ final :: rest) :
      Progress channel pushed ((taken ++ [final]).map Delivery.answer ++ List.replicate calls (.ok none))

namespace Progress

variable {pushed : List Delivery} {got : List (Outcome Error (Option Response))}

theorem fresh : Progress {} [] [] := @underway {} [] rfl nofun

theorem push (progress : Progress channel pushed got) (feeding : channel.fed = true) (delivery : Delivery) :
    Progress (channel.push delivery) (pushed ++ [delivery]) got := by
  cases progress with
  | underway undone unended =>
    rw [List.append_assoc]
    exact .underway undone unended
  | @finished _ taken rest final calls done_eq unended ended all =>
    have behind : pushed ++ [delivery] ++ (channel.push delivery).farewell =
        taken ++ final :: (rest ++ [delivery]) := by
      rw [farewell, if_pos feeding, List.append_nil] at all
      rw [farewell, Channel.push, if_pos feeding, List.append_nil, all, List.append_assoc, List.cons_append]
    exact .finished calls done_eq unended ended behind

theorem finish (progress : Progress channel pushed got) (feeding : channel.fed = true) :
    Progress channel.finish pushed got := by
  cases progress with
  | underway undone unended => exact .underway undone unended
  | @finished _ taken rest final calls done_eq unended ended all =>
    have behind : pushed ++ channel.finish.farewell =
        taken ++ final :: (rest ++ [.failure .connectionClosed]) := by
      rw [farewell, if_pos feeding, List.append_nil] at all
      rw [farewell, Channel.finish, if_neg Bool.false_ne_true, all, List.append_assoc, List.cons_append]
    exact .finished calls done_eq unended ended behind

/-- A call that need not wait. -/
theorem call (progress : Progress channel pushed got) (ready : ¬channel.Waits) :
    Progress channel.next.2 pushed (got ++ [channel.next.1]) := by
  cases progress with
  | @underway taken undone unended =>
    match held : channel.queue with
    | delivery :: rest =>
      rw [next_of_held undone held]
      cases final : delivery.isFinal with
      | true =>
        have finished : Progress { channel with queue := rest, done := true } (taken ++ delivery :: rest)
            ((taken ++ [delivery]).map Delivery.answer ++ List.replicate 0 (.ok none)) :=
          .finished 0 rfl unended final (by rw [List.append_assoc, List.cons_append])
        rwa [List.replicate_zero, List.append_nil, List.map_append, List.map_singleton] at finished
      | false =>
        have on : ∀ other ∈ taken ++ [delivery], other.isFinal = false := fun other member => by
          rcases List.mem_append.mp member with earlier | now
          · exact unended other earlier
          · rw [List.mem_singleton.mp now, final]
        have underway : Progress { channel with queue := rest, done := false } (taken ++ [delivery] ++ rest)
            ((taken ++ [delivery]).map Delivery.answer) := .underway rfl on
        rwa [List.append_assoc, List.singleton_append, List.map_append, List.map_singleton] at underway
    | [] =>
      have unfed : channel.fed = false := by
        cases feeding : channel.fed with
        | true => exact absurd ⟨undone, held, feeding⟩ ready
        | false => rfl
      rw [next_of_gone undone held unfed, List.append_nil]
      have finished : Progress { channel with done := true } taken
          ((taken ++ [Delivery.failure .connectionClosed]).map Delivery.answer ++ List.replicate 0 (.ok none)) :=
        .finished 0 rfl unended rfl (by rw [farewell, if_neg (Bool.eq_false_iff.mp unfed)])
      rwa [List.replicate_zero, List.append_nil, List.map_append, List.map_singleton] at finished
  | finished calls done_eq unended ended all =>
    rw [next_of_done done_eq, List.append_assoc, ← List.replicate_succ']
    exact .finished (calls + 1) done_eq unended ended all

/-- One move keeps it. -/
theorem play (progress : Progress channel pushed got) {move : Move} (allowed : channel.Allows move) :
    Progress (channel.play move).2 (pushed ++ Move.pushed [move])
      (got ++ if channel.Waits then [] else (channel.play move).1.toList) := by
  have by_call (call : move.isCall = true) (nothing : Move.pushed [move] = []) :
      Progress (channel.play move).2 (pushed ++ Move.pushed [move])
        (got ++ if channel.Waits then [] else (channel.play move).1.toList) := by
    rw [nothing, List.append_nil]
    by_cases waits : channel.Waits
    · rwa [if_pos waits, List.append_nil, play_waiting call allowed waits]
    · rw [if_neg waits, play_call call waits]
      exact progress.call waits
  cases move with
  | push delivery =>
    have nothing : (if channel.Waits then [] else (channel.play (.push delivery)).1.toList) = [] := ite_self _
    rw [nothing, List.append_nil]
    exact progress.push allowed delivery
  | finish =>
    have nothing : (if channel.Waits then [] else (channel.play .finish).1.toList) = [] := ite_self _
    rw [nothing, List.append_nil]
    exact (List.append_nil pushed).symm ▸ progress.finish allowed
  | receive limit => exact by_call rfl rfl
  | next => exact by_call rfl rfl

/-- Hence any number of moves keeps it. -/
theorem run (progress : Progress channel pushed got) {moves : List Move} (legal : channel.Legal moves) :
    Progress (channel.after moves) (pushed ++ Move.pushed moves) (got ++ channel.received moves) := by
  induction moves generalizing channel pushed got with
  | nil =>
    rw [received, List.append_nil]
    exact (List.append_nil pushed).symm ▸ progress
  | cons move moves ih =>
    have all := ih (progress.play legal.1) legal.2
    rw [List.append_assoc, List.append_assoc] at all
    have split : Move.pushed (move :: moves) = Move.pushed [move] ++ Move.pushed moves := by
      cases move <;> rfl
    rw [split, received]
    exact all

/-- All that the receiver is to get follows from what the channel is yet to tell it. -/
theorem script_eq (pushed : List Delivery) :
    Delivery.script pushed (!channel.fed) = Delivery.upToFinal (pushed ++ channel.farewell) := by
  rw [Delivery.script_eq_upToFinal, farewell]
  cases channel.fed <;> rfl

private theorem script_of_underway {taken : List Delivery} (unended : ∀ delivery ∈ taken, delivery.isFinal = false) :
    Delivery.script (taken ++ channel.queue) (!channel.fed) =
      taken ++ Delivery.upToFinal (channel.queue ++ channel.farewell) := by
  rw [script_eq, List.append_assoc, Delivery.upToFinal_append _ unended]

private theorem script_of_finished {taken rest : List Delivery} {final : Delivery}
    (unended : ∀ delivery ∈ taken, delivery.isFinal = false) (ended : final.isFinal = true)
    (all : pushed ++ channel.farewell = taken ++ final :: rest) :
    Delivery.script pushed (!channel.fed) = taken ++ [final] := by
  rw [script_eq, all, Delivery.upToFinal_append _ unended, Delivery.upToFinal, if_pos ended]

/-- The receiver got what it was to get, in order, and nothing any more behind a final delivery. -/
theorem got_eq (progress : Progress channel pushed got) :
    let script := Delivery.script pushed (!channel.fed)
    got = (script.map Delivery.answer).take got.length ++
        List.replicate (got.length - script.length) (.ok none) ∧
      (script.length < got.length → script.any Delivery.isFinal = true) := by
  dsimp only
  cases progress with
  | @underway taken undone unended =>
    have short : taken.length ≤ (Delivery.script (taken ++ channel.queue) !channel.fed).length := by
      rw [script_of_underway unended, List.length_append]
      omega
    rw [List.length_map, Nat.sub_eq_zero_of_le short, List.replicate_zero, List.append_nil]
    refine ⟨?_, fun long => absurd short (Nat.not_le_of_lt long)⟩
    rw [script_of_underway unended, List.map_append, List.take_left' (List.length_map _)]
  | finished calls done_eq unended ended all =>
    rw [script_of_finished unended ended all, List.length_append, List.length_map, List.length_replicate,
      Nat.add_sub_cancel_left, List.take_of_length_le (by rw [List.length_map]; omega)]
    refine ⟨rfl, fun _ => ?_⟩
    rw [List.any_append, List.any_cons, ended, Bool.true_or, Bool.or_true]

/-- A receiver has to wait just where it has all that was handed in and nothing of it was final. -/
theorem waits_iff (progress : Progress channel pushed got) :
    let script := Delivery.script pushed (!channel.fed)
    channel.Waits ↔ got = script.map Delivery.answer ∧ script.any Delivery.isFinal = false := by
  dsimp only
  cases progress with
  | underway undone unended =>
    rw [script_of_underway unended, Channel.waits_iff, and_iff_right undone]
    constructor
    · intro nothing
      rw [nothing, Delivery.upToFinal, List.append_nil]
      exact ⟨rfl, Delivery.any_isFinal_eq_false unended⟩
    · rintro ⟨all, -⟩
      rw [List.map_append, List.self_eq_append_right, List.map_eq_nil_iff] at all
      exact Delivery.upToFinal_eq_nil all
  | finished calls done_eq unended ended all =>
    rw [script_of_finished unended ended all, List.any_append, List.any_cons, ended, Bool.true_or, Bool.or_true]
    exact ⟨fun waits => absurd (waits.1.symm.trans done_eq) Bool.false_ne_true,
      fun impossible => absurd impossible.2.symm Bool.false_ne_true⟩

/-- A call that need not wait returns what is next on the list, and nothing behind its end. -/
theorem next_eq (progress : Progress channel pushed got) (ready : ¬channel.Waits) :
    channel.next.1 =
      ((Delivery.script pushed (!channel.fed))[got.length]?).elim (.ok none) Delivery.answer := by
  cases progress with
  | underway undone unended =>
    rw [script_of_underway unended, List.length_map, List.getElem?_append_right (Nat.le_refl _), Nat.sub_self]
    match coming : channel.queue ++ channel.farewell with
    | [] => exact absurd (Channel.waits_iff.mpr ⟨undone, coming⟩) ready
    | delivery :: rest =>
      rw [next_answer undone coming, Delivery.upToFinal]
      split <;> rfl
  | finished calls done_eq unended ended all =>
    rw [next_of_done done_eq, script_of_finished unended ended all, List.length_append, List.length_map,
      List.length_replicate, List.getElem?_eq_none (Nat.le_add_right _ calls)]
    rfl

end Progress

theorem take?_fed {taken : Except Error (Option Response)} {rest : Channel}
    (taken_eq : channel.take? = some (taken, rest)) : rest.fed = channel.fed := by
  unfold take? at taken_eq
  grind

private theorem play_fed (move : Move) :
    (channel.play move).2.fed = (channel.fed && !decide (move = .finish)) := by
  cases move with
  | push delivery => exact (Bool.and_true _).symm
  | finish => exact (Bool.and_false _).symm
  | receive limit =>
    refine Eq.trans ?_ (Bool.and_true _).symm
    change (channel.receive limit).2.fed = channel.fed
    unfold receive
    split
    · next taken_eq => exact take?_fed taken_eq
    · rfl
  | next =>
    refine Eq.trans ?_ (Bool.and_true _).symm
    change channel.next.2.fed = channel.fed
    unfold next
    split
    · next taken_eq => exact take?_fed taken_eq
    · rfl

/-- The feeding end is there until it goes away. -/
theorem fed_after (channel : Channel) (moves : List Move) :
    (channel.after moves).fed = (channel.fed && !decide (.finish ∈ moves)) := by
  induction moves generalizing channel with
  | nil => exact (Bool.and_true _).symm
  | cons move moves ih =>
    rw [after, List.foldl_cons, ← after, ih, play_fed, Bool.and_assoc, ← Bool.not_or, ← Bool.decide_or]
    congr 2
    exact decide_eq_decide.mpr (or_congr_left eq_comm |>.trans List.mem_cons.symm)

/-- Lives that differ only in how the receiver calls leave it with the same. -/
theorem received_of_alike {moves others : List Move} (alike : List.Forall₂ Move.Alike moves others)
    (legal : channel.Legal moves) (other_legal : channel.Legal others) :
    channel.received moves = channel.received others := by
  induction alike generalizing channel with
  | nil => rfl
  | @cons move other moves others same alike ih =>
    have agree : (channel.play move).2 = (channel.play other).2 ∧
        (if channel.Waits then [] else (channel.play move).1.toList) =
          if channel.Waits then [] else (channel.play other).1.toList := by
      rcases same with rfl | ⟨call, other_call⟩
      · exact ⟨rfl, rfl⟩
      · by_cases waits : channel.Waits
        · rw [play_waiting call legal.1 waits, play_waiting other_call other_legal.1 waits, if_pos waits,
            if_pos waits]
          exact ⟨rfl, rfl⟩
        · rw [play_call call waits, play_call other_call waits]
          exact ⟨rfl, rfl⟩
    rw [received, received, agree.2, agree.1, ih (agree.1 ▸ legal.2) other_legal.2]

/-- A receiver gets exactly what was handed in, in order, up to and with the first final delivery. An end that
goes away before that is heard as one failure behind the rest, and after either every call returns nothing
without waiting. The receiver has to wait just where nothing is left and nothing ended the stream; a call whose
limit passes meanwhile changes nothing. Which of its two calls the receiver uses is of no account. -/
theorem received_eq_script (moves : List Move) (legal : Legal {} moves) :
    let script := Delivery.script (Move.pushed moves) (.finish ∈ moves)
    let got := received {} moves
    let channel := after {} moves
    got = (script.map Delivery.answer).take got.length ++
        List.replicate (got.length - script.length) (.ok none) ∧
      (script.length < got.length → script.any Delivery.isFinal = true) ∧
      (channel.Waits ↔ got = script.map Delivery.answer ∧ script.any Delivery.isFinal = false) ∧
      (∀ limit, channel.receive limit =
        if channel.Waits then (Outcome.fail (.timeout 0 limit), channel) else channel.next) ∧
      (¬channel.Waits → channel.next.1 = (script[got.length]?).elim (.ok none) Delivery.answer) ∧
      ∀ others, Legal {} others → List.Forall₂ Move.Alike moves others → received {} others = got := by
  have progress : Progress (after {} moves) (Move.pushed moves) (received {} moves) := Progress.fresh.run legal
  have gone : decide (Move.finish ∈ moves) = !(after {} moves).fed := by
    rw [fed_after, Bool.true_and, Bool.not_not]
  dsimp only
  rw [gone]
  refine ⟨progress.got_eq.1, progress.got_eq.2, progress.waits_iff, fun limit => ?_, progress.next_eq,
    fun others other_legal alike => (received_of_alike alike legal other_legal).symm⟩
  split
  · next waits => exact receive_of_waits waits limit
  · next ready => exact receive_eq_next ready limit

/-- A call that waits in vain, a message, an end that goes away and the calls behind it. -/
theorem received_eq_script_interrupted :
    let moves : List Move := [.receive (.ofSeconds 1), .push (.message .pong false), .finish, .next,
      .receive (.ofSeconds 1), .next]
    let others : List Move := [.receive (.ofSeconds 2), .push (.message .pong false), .finish, .next, .next,
      .receive (.ofSeconds 1)]
    Legal {} moves ∧
      received {} moves = [.ok (some .pong), Outcome.fail .connectionClosed, .ok none] ∧
      Legal {} others ∧ List.Forall₂ Move.Alike moves others ∧ received {} others = received {} moves := by
  intro moves others
  have legal : Legal {} moves := by decide
  have other_legal : Legal {} others := by decide
  have alike : List.Forall₂ Move.Alike moves others := by
    unfold moves others Move.Alike
    decide
  have all := received_eq_script moves legal
  exact ⟨legal, all.1.trans (by decide), other_legal, alike, all.2.2.2.2.2 others other_legal alike⟩

end Channel

end PagedResults
