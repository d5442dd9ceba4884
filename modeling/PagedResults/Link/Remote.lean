import PagedResults.Link

/-! # Connections over a distance

A message to the other end of a connection takes its time, and so does one that comes back. A remote end
keeps the messages on their way, and each arrives in its turn, whenever that is. How its bytes are cut on the
way is a matter of framing.
-/

namespace PagedResults

/-- The other end of a connection, with what is on its way there and back, the oldest first. -/
structure Remote (π : Type) where
  peer : π
  outward : List ByteArray := []
  inward : List Reaction := []

instance {π : Type} : Peer (Remote π) where
  react bytes remote := ({}, { remote with outward := remote.outward ++ [bytes] })

namespace Remote

variable {π : Type} [Peer π]

/-- A message arrives at the other end, which reacts to it. -/
def serve (remote : Remote π) : Remote π :=
  match remote.outward with
  | [] => remote
  | bytes :: rest =>
      let (reaction, peer) := Peer.react bytes remote.peer
      { peer, outward := rest, inward := remote.inward ++ [reaction] }

end Remote

namespace Link

variable {π : Type}

/-- A message arrives at the other end. -/
def serve [Peer π] (link : Link (Remote π)) : Link (Remote π) := { link with peer := link.peer.serve }

/-- A reaction of the other end arrives at this one. -/
def deliver (link : Link (Remote π)) : Link (Remote π) :=
  match link.peer.inward with
  | [] => link
  | reaction :: rest => { link with peer := { link.peer with inward := rest } }.accept .reader reaction

end Link

end PagedResults
