import PagedResults.Link.Remote
import PagedResults.Proofs.Exchange

/-! # Replies on their way

Between a client and a server that both behave, it is settled what comes back as soon as a request has been
sent, however long it takes: the server answers the requests in their order, and its answers stay in that
order. `Link.Flows` describes a connection with calls that wait for such replies.
-/

namespace PagedResults

/-! ## Ids in a row -/

/-- The ids were given out one after the other, the last of them just before `next`. -/
def Consecutive (next : UInt64) : List UInt64 → Prop
  | [] => True
  | id :: rest => id + UInt64.ofNat (rest.length + 1) = next ∧ Consecutive next rest

namespace Consecutive

variable {next id : UInt64} {ids : List UInt64}

theorem snoc (consecutive : Consecutive next ids) : Consecutive (next + 1) (ids ++ [next]) := by
  induction ids with
  | nil => exact ⟨rfl, trivial⟩
  | cons id rest ih =>
    obtain ⟨here, others⟩ := consecutive
    refine ⟨?_, ih others⟩
    change id + UInt64.ofNat ((rest ++ [next]).length + 1) = next + 1
    rw [List.length_append, List.length_singleton, UInt64.ofNat_add, ← UInt64.add_assoc, here]
    rfl

private theorem behind (consecutive : Consecutive next ids) (member : id ∈ ids) :
    ∃ count, 0 < count ∧ count ≤ ids.length ∧ id + UInt64.ofNat count = next := by
  induction ids with
  | nil => cases member
  | cons first rest ih =>
    obtain ⟨here, others⟩ := consecutive
    rcases List.mem_cons.mp member with rfl | member
    · exact ⟨rest.length + 1, Nat.succ_pos _, Nat.le_refl _, here⟩
    · obtain ⟨count, positive, le, reached⟩ := ih others member
      exact ⟨count, positive, Nat.le_succ_of_le le, reached⟩

/-- Two distances from an id to the same place. -/
private theorem count_eq {count other : Nat} (same : id + UInt64.ofNat count = id + UInt64.ofNat other) :
    count % UInt64.size = other % UInt64.size := by
  have sums := congrArg UInt64.toNat (UInt64.add_right_inj id |>.mp same)
  rwa [UInt64.toNat_ofNat', UInt64.toNat_ofNat'] at sums

/-- No id comes twice, unless they are more than there are ids. -/
theorem head_not_mem (consecutive : Consecutive next (id :: ids)) (few : ids.length < UInt64.size) :
    id ∉ ids := by
  obtain ⟨here, others⟩ := consecutive
  intro member
  obtain ⟨count, positive, le, reached⟩ := others.behind member
  have same := count_eq (here.trans reached.symm)
  rw [Nat.mod_eq_of_lt (by omega : count < UInt64.size)] at same
  rcases Nat.lt_or_ge (ids.length + 1) UInt64.size with less | full
  · rw [Nat.mod_eq_of_lt less] at same
    omega
  · obtain whole : ids.length + 1 = UInt64.size := by omega
    rw [whole, Nat.mod_self] at same
    omega

end Consecutive

/-! ## What has not arrived yet -/

namespace Remote

variable {π : Type} [Peer π]

/-- The other end once everything on its way there has arrived. -/
def ahead (remote : Remote π) : π := remote.outward.foldl (fun peer bytes => (Peer.react bytes peer).2) remote.peer

/-- The reactions to several messages. -/
def reactions : List ByteArray → π → List Reaction
  | [], _ => []
  | bytes :: rest, peer => (Peer.react bytes peer).1 :: reactions rest (Peer.react bytes peer).2

/-- All reactions that are still to arrive. -/
def coming (remote : Remote π) : List Reaction := remote.inward ++ reactions remote.outward remote.peer

private theorem reactions_append (messages : List ByteArray) (bytes : ByteArray) (peer : π) :
    reactions (messages ++ [bytes]) peer = reactions messages peer ++
      [(Peer.react bytes (messages.foldl (fun peer bytes => (Peer.react bytes peer).2) peer)).1] := by
  induction messages generalizing peer with
  | nil => rfl
  | cons first rest ih => exact congrArg _ (ih _)

variable {remote : Remote π}

@[simp] theorem ahead_serve : remote.serve.ahead = remote.ahead := by
  rw [serve]
  split
  · rfl
  · next bytes rest sent =>
    rw [ahead, ahead, sent]
    rfl

@[simp] theorem coming_serve : remote.serve.coming = remote.coming := by
  rw [serve]
  split
  · rfl
  · next bytes rest sent =>
    rw [coming, coming, sent]
    exact List.append_assoc _ _ _

private theorem ahead_send (bytes : ByteArray) : ({ remote with outward := remote.outward ++ [bytes] } : Remote π).ahead =
    (Peer.react bytes remote.ahead).2 := by
  rw [ahead, ahead, List.foldl_append]
  rfl

private theorem coming_send (bytes : ByteArray) : ({ remote with outward := remote.outward ++ [bytes] } : Remote π).coming =
    remote.coming ++ [(Peer.react bytes remote.ahead).1] := by
  rw [coming, coming, reactions_append, ← List.append_assoc]
  rfl

/-- With nothing on its way in either direction, nothing is still to arrive. -/
theorem coming_eq_nil (sent : remote.outward = []) (returned : remote.inward = []) : remote.coming = [] := by
  rw [coming, sent, returned]
  rfl

end Remote

namespace Link

/-- The reaction that answers a call by a single response. -/
def reply (id : UInt64) (response : Response) : Reaction where
  events := [.chunk (Bytes.toBuffer (((Block.one response).payloads id).flatMap Framing.frame))]

/-- An open connection on which nothing is on its way but the replies to the calls in `mail`, the oldest
first. -/
structure Flows (data : Dataset) (mail : List (UInt64 × Response)) (link : Link (Remote Serving)) : Prop where
  data_eq : link.peer.ahead.data = data
  idle : link.peer.ahead.Idle
  coming_eq : link.peer.coming = mail.map fun (id, response) => reply id response
  fits : ∀ entry ∈ mail, entry.2.Fits
  live : link.calls.standing = .live
  ids : Consecutive link.calls.nextId (mail.map (·.1))
  pending_eq : link.calls.pending = mail.map fun entry => (entry.1, .unary)
  channels_eq : link.channels = mail.map fun entry => (entry.1, {})
  reading : link.reader = .reading
  waits : link.inbound.Carries []
  willing : link.outbound.Willing
  sent : link.outbound.written = .empty

variable {data : Dataset} {mail : List (UInt64 × Response)} {link : Link (Remote Serving)} {id : UInt64}
  {response : Response} {request : Request} {next : Conversation}

private theorem lookup_mail (member : id ∈ mail.map (·.1)) :
    (mail.map fun entry => (entry.1, ({} : Channel))).lookup id = some {} := by
  induction mail with
  | nil => cases member
  | cons entry rest ih =>
    rw [List.map_cons, List.lookup_cons]
    split
    · rfl
    · next differs => exact ih ((List.mem_cons.mp member).resolve_left (beq_eq_false_iff_ne.mp differs))

private theorem lookup_mail_absent {α : Type} {value : α} (absent : id ∉ mail.map (·.1)) :
    (mail.map fun entry => (entry.1, value)).lookup id = none := by
  rw [List.lookup_eq_none_iff]
  intro entry member
  obtain ⟨letter, listed, rfl⟩ := List.mem_map.mp member
  exact bne_iff_ne.mpr fun same => absent (same ▸ List.mem_map_of_mem listed)

/-- The server has said what it will say, once it has received everything. -/
def talk (link : Link (Remote Serving)) : Conversation := link.peer.ahead.conversation

theorem Flows.note (flows : link.Flows data mail) (thread : Thread) (event : Event) :
    (link.note thread event).Flows data mail :=
  { flows with }

/-- No reply that is on its way is there already. -/
theorem Flows.reply?_eq (flows : link.Flows data mail) (member : id ∈ mail.map (·.1)) :
    link.reply? id = none := by
  rw [reply?, channel?, flows.channels_eq, lookup_mail member]
  rfl

@[simp] theorem talk_serve : link.serve.talk = link.talk := by
  rw [talk, serve, Remote.ahead_serve, talk]

theorem Flows.serve (flows : link.Flows data mail) : link.serve.Flows data mail :=
  { flows with
    data_eq := by rw [Link.serve, Remote.ahead_serve, flows.data_eq]
    idle := by rw [Link.serve, Remote.ahead_serve]; exact flows.idle
    coming_eq := by rw [Link.serve, Remote.coming_serve, flows.coming_eq] }

/-! ## A reply arrives -/

/-- Reading when nothing has come. -/
private theorem read_nothing {π : Type} {link : Link π} (reading : link.reader = .reading)
    (waits : link.inbound.Carries []) :
    ∃ inbound : Inbound, link.read = { link with inbound } ∧ inbound.Carries [] := by
  have nothing : link.inbound.Carries (([] : List Bytes).flatMap Framing.frame) := waits
  obtain ⟨inbound, received, waits⟩ := Framing.receiveAll_frames nothing (List.forall_mem_nil _)
  refine ⟨inbound, ?_, waits⟩
  rw [Link.read, if_neg (not_not_intro reading), received]
  exact if_neg (not_not_intro reading)

private theorem isFinal_unary (mark : Bool) (response : Response) :
    (Calls.deliveryOf .unary mark response).isFinal = true := by
  cases response <;> cases mark <;> rfl

/-- Reading the oldest reply. -/
private theorem Flows.read_reply (flows : link.Flows data ((id, response) :: mail)) (peer : Remote Serving)
    {inbound : Inbound} (carries : inbound.Carries (((Block.one response).payloads id).flatMap Framing.frame)) :
    ∃ (left : Inbound) (journal : Journal), left.Carries [] ∧
      ({ link with peer, inbound } : Link (Remote Serving)).read =
        ({ link with peer, inbound := left, calls := link.calls.withdraw id, journal } :
          Link (Remote Serving)).setChannel id { queue := [Calls.deliveryOf .unary true response] } := by
  have small : response.Fits := flows.fits _ (List.mem_cons_self ..)
  have fits : (Block.one response).Fits := List.forall_mem_singleton.mpr small
  obtain ⟨left, received, waits⟩ := Framing.receiveAll_frames carries (fits.payload_le id)
  let noted := ({ link with peer, inbound := left } : Link (Remote Serving)).note .reader
    (.frameReceived (ResponseEnvelope.codec.encode ⟨id, true, response⟩).length)
  have known : noted.calls.shape? id = some .unary := by
    change link.calls.pending.lookup id = _
    rw [flows.pending_eq]
    exact List.lookup_cons_self
  have found : noted.channel? id = some {} := by
    change link.channels.lookup id = _
    rw [flows.channels_eq]
    exact List.lookup_cons_self
  have delivered : deliverFrames (((Block.one response).payloads id).map Bytes.toBuffer)
      ({ link with peer, inbound := left } : Link (Remote Serving)) = noted.arrive .reader ⟨id, true, response⟩ := by
    rw [Block.one, deliverFrames_payloads _ id small [] false]
    rfl
  refine ⟨left, noted.journal.push (.reader, .responseDelivered id true), waits, ?_⟩
  rw [Link.read, if_neg (not_not_intro flows.reading)]
  dsimp only
  rw [received]
  dsimp only
  rw [delivered, arrive_pending known found, isFinal_unary, if_pos rfl]
  exact if_neg (not_not_intro flows.reading)

/-- The oldest reply arrives, if one has been sent: whoever called can take it, and leaves the others as they
are. -/
theorem Flows.deliver (flows : link.Flows data mail) (few : mail.length ≤ UInt64.size)
    (sent : link.peer.inward ≠ []) :
    ∃ id response rest, mail = (id, response) :: rest ∧
      (∃ reply, link.deliver.reply? id = some reply ∧ reply.mapError .error = response.outcome) ∧
      (∀ other ∈ rest.map (·.1), link.deliver.reply? other = none) ∧ id ∉ rest.map (·.1) ∧
      link.deliver.peer = { link.peer with inward := link.peer.inward.tail } ∧
      (link.deliver.dropChannel id).Flows data rest := by
  obtain ⟨reaction, inward, returned⟩ := List.exists_cons_of_ne_nil sent
  have coming := flows.coming_eq
  rw [Remote.coming, returned] at coming
  cases mail with
  | nil => cases coming
  | cons entry rest =>
    obtain ⟨id, response⟩ := entry
    obtain ⟨rfl, others⟩ := List.cons.inj coming
    have apart : id ∉ rest.map (·.1) :=
      flows.ids.head_not_mem (by rw [List.length_map]; exact Nat.lt_of_succ_le few)
    have replies : (Block.one response).responses ≠ [] := List.cons_ne_nil _ _
    have carries := flows.waits.push (Block.frames_ne_nil id replies)
    obtain ⟨left, journal, waits, reads⟩ := flows.read_reply { link.peer with inward } carries
    have delivered : link.deliver = ({ link with
        peer := { link.peer with inward }
        inbound := left
        calls := link.calls.withdraw id
        journal } : Link (Remote Serving)).setChannel id
          { queue := [Calls.deliveryOf .unary true response] } := by
      rw [← reads, Link.deliver, returned]
      rfl
    have channels_eq : link.deliver.channels =
        (id, { queue := [Calls.deliveryOf .unary true response] }) :: rest.map fun entry => (entry.1, {}) := by
      rw [delivered]
      change (link.channels.map fun entry => if entry.1 = id then (id, _) else entry) = _
      rw [flows.channels_eq, List.map_cons, List.map_cons, if_pos rfl, replace_absent (lookup_mail_absent apart)]
    refine ⟨id, response, rest, rfl, ?_, fun other member => ?_, apart, ?_, ?_⟩
    · rw [reply?, channel?, channels_eq, List.lookup_cons_self]
      cases response <;> exact ⟨_, rfl, rfl⟩
    · have differs : (other == id) = false := beq_eq_false_iff_ne.mpr fun same => apart (same ▸ member)
      rw [reply?, channel?, channels_eq, List.lookup_cons, differs]
      dsimp only
      rw [lookup_mail member]
      rfl
    · rw [delivered, returned]
      rfl
    · have dropped : (link.deliver.dropChannel id).channels = rest.map fun entry => (entry.1, {}) := by
        change link.deliver.channels.filter (·.1 ≠ id) = _
        rw [channels_eq, List.filter_cons_of_neg (by simp), filter_absent (lookup_mail_absent apart)]
      rw [delivered] at dropped ⊢
      refine {
        data_eq := flows.data_eq
        idle := flows.idle
        coming_eq := others
        fits := fun entry member => flows.fits entry (List.mem_cons_of_mem _ member)
        live := flows.live
        ids := flows.ids.2
        pending_eq := ?_
        channels_eq := dropped
        reading := flows.reading
        waits
        willing := flows.willing
        sent := flows.sent }
      change link.calls.pending.filter (·.1 ≠ id) = _
      rw [flows.pending_eq, List.map_cons, List.filter_cons_of_neg (by simp),
        filter_absent (lookup_mail_absent apart)]

/-! ## A request is sent -/

/-- A message that is sent stays on its way. -/
private theorem exchange_remote {π : Type} [Peer π] {link : Link (Remote π)} (reading : link.reader = .reading)
    (waits : link.inbound.Carries []) (thread : Thread) :
    ∃ inbound : Inbound, inbound.Carries [] ∧ link.exchange thread =
      { link with
        inbound
        outbound := { link.outbound with written := .empty }
        peer := { link.peer with outward := link.peer.outward ++ [link.outbound.written] } } := by
  have still : (link.inbound.push []).Carries [] := by
    rw [Inbound.push, List.append_nil]
    exact waits
  have sent : ({ link with
      inbound := link.inbound.push []
      outbound := { link.outbound with written := .empty }
      peer := { link.peer with outward := link.peer.outward ++ [link.outbound.written] } } :
      Link (Remote π)).reader = .reading := reading
  obtain ⟨inbound, reads, waits⟩ := read_nothing sent still
  exact ⟨inbound, waits, reads⟩

/-- A request is sent, and with that it is settled what comes back for it. -/
theorem Flows.submit (flows : link.Flows data mail) (small : request.Fits)
    (answered : link.talk.answer data request = .ok (.one response, next)) (fits : response.Fits)
    (thread : Thread) :
    ∃ id after, Link.submit thread .unary request link = (.ok id, after) ∧
      after.Flows data (mail ++ [(id, response)]) ∧ after.talk = next := by
  obtain ⟨outbound, sent, willing, written⟩ := flows.willing.send (small link.calls.nextId)
  rw [flows.sent] at written
  have replies : (Block.one response).responses ≠ [] := List.cons_ne_nil _ _
  obtain ⟨server, reacted, idle, data_eq, conversation_eq⟩ := Serving.receive_request flows.idle written small
    (by rw [flows.data_eq]; exact answered) rfl replies (List.forall_mem_singleton.mpr fits)
  have registered := register_live flows.live .unary
  rw [Calls.register_live flows.live .unary] at registered
  let registering : Link (Remote Serving) := { link with
    calls := { link.calls with
      nextId := link.calls.nextId + 1
      pending := link.calls.pending ++ [(link.calls.nextId, .unary)] }
    channels := link.channels ++ [(link.calls.nextId, {})] }
  have reading : ({ registering with outbound } : Link (Remote Serving)).reader = .reading := flows.reading
  obtain ⟨inbound, waits, exchanged⟩ := exchange_remote reading flows.waits thread
  let after := ((({ registering with outbound } : Link (Remote Serving)).exchange thread).note thread
    (.frameSent (RequestEnvelope.codec.encode ⟨link.calls.nextId, request⟩).length)).note thread
      (.requestSent request.name link.calls.nextId)
  have submitted : Link.submit thread .unary request link = (.ok link.calls.nextId, after) := by
    rw [Link.submit, registered]
    dsimp only
    rw [sent, Bytes.size_toBuffer]
  have ahead_eq : ({ link.peer with outward := link.peer.outward ++ [outbound.written] } : Remote Serving).ahead =
      server := (Remote.ahead_send outbound.written).trans (congrArg Prod.snd reacted)
  have coming_eq : ({ link.peer with outward := link.peer.outward ++ [outbound.written] } : Remote Serving).coming =
      link.peer.coming ++ [reply link.calls.nextId response] :=
    (Remote.coming_send outbound.written).trans (congrArg (link.peer.coming ++ [·]) (congrArg Prod.fst reacted))
  refine ⟨link.calls.nextId, after, submitted, (Flows.note ?_ thread _).note thread _, ?_⟩
  · rw [exchanged]
    exact {
      data_eq := by rw [ahead_eq, data_eq, flows.data_eq]
      idle := by rw [ahead_eq]; exact idle
      coming_eq := by rw [coming_eq, flows.coming_eq, List.map_append]; rfl
      fits := List.forall_mem_append.mpr ⟨flows.fits, List.forall_mem_singleton.mpr fits⟩
      live := flows.live
      ids := by rw [List.map_append]; exact flows.ids.snoc
      pending_eq := by rw [List.map_append, ← flows.pending_eq]; rfl
      channels_eq := by rw [List.map_append, ← flows.channels_eq]; rfl
      reading := flows.reading
      waits
      willing := { willing with }
      sent := rfl }
  · have talk_eq : after.talk =
        (({ registering with outbound } : Link (Remote Serving)).exchange thread).talk := rfl
    rw [talk_eq, exchanged, talk, ahead_eq, conversation_eq]

end Link

end PagedResults
