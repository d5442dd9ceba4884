import PagedResults.Main
import PagedResults.Proofs.Cursor.Forward
import PagedResults.Proofs.Cursor.Scrollable
import PagedResults.Proofs.Operations
import PagedResults.Script.Peer
import PagedResults.Script.Source
import PagedResults.Session.RowStream
import PagedResults.Session.Shared
import PagedResults.Proofs.Codec
import PagedResults.Proofs.Cells
import PagedResults.Proofs.Messages
import PagedResults.Proofs.Framing
import PagedResults.Proofs.Framing.RoundTrip
import PagedResults.Proofs.Serving
import PagedResults.Proofs.Exchange
import PagedResults.Proofs.Link.Remote
import PagedResults.Proofs.Pages
import PagedResults.Proofs.Conversation
import PagedResults.Proofs.Conversation.Statements
import PagedResults.Proofs.Conversation.Replies
import PagedResults.Proofs.Serving.Replies
import PagedResults.Proofs.Reading
import PagedResults.Proofs.SessionSource
import PagedResults.Proofs.Session.Errands
import PagedResults.Proofs.RowStream
import PagedResults.Proofs.Fidelity
import PagedResults.Proofs.Codec.Exact
import PagedResults.Proofs.Cells.Exact
import PagedResults.Proofs.Messages.Exact
import PagedResults.Proofs.Outcomes
import PagedResults.Proofs.ReadingThread
import PagedResults.Proofs.Cursor.Likeness
import PagedResults.Proofs.Supply.Likeness
import PagedResults.Proofs.Cursor.Watched
import PagedResults.Proofs.Cursor.Discipline
import PagedResults.Proofs.Cursor.Requests
import PagedResults.Proofs.Session.Attached
import PagedResults.Proofs.Session.Keeping
import PagedResults.Proofs.Session.Viewer
import PagedResults.Proofs.Session.Sharing
import PagedResults.Proofs.Session.Isolation
import PagedResults.Proofs.Conversation.Effects
import PagedResults.Proofs.Conversation.History
import PagedResults.Proofs.Conversation.Outlook
import PagedResults.Proofs.Serving.LifeCycle
import PagedResults.Proofs.Cursor.Merged
import PagedResults.Proofs.Cursor.Life
import PagedResults.Proofs.Cursor.Limit
import PagedResults.Proofs.Cursor.Release
import PagedResults.Proofs.RowStream.Consumption
import PagedResults.Proofs.RowStream.Owed
import PagedResults.Proofs.RowStream.Cancel
import PagedResults.Proofs.Cursor.Position
import PagedResults.Proofs.Framing.Grammar
import PagedResults.Proofs.Closing
import PagedResults.Proofs.Workers
import PagedResults.Proofs.Cells.Boundless
import PagedResults.Proofs.Pages.Defects
import PagedResults.Proofs.Cursor.Offsets
import PagedResults.Proofs.Session.Failures
import PagedResults.Proofs.Cursor.Buffer
import PagedResults.Proofs.Channel
import PagedResults.Proofs.Decimal
import PagedResults.Proofs.Cursor.Kept
import PagedResults.Proofs.Session.Turns
import PagedResults.Proofs.Session.Books
import PagedResults.Proofs.Session.Deeds
import PagedResults.Proofs.Session.Closing
import PagedResults.Proofs.Pages.Partition
import PagedResults.Proofs.Cells.Nesting
import PagedResults.Proofs.Cursor.Walk
import PagedResults.Proofs.Session.Goodbye
import PagedResults.Proofs.Session.Ownership
import PagedResults.Proofs.CommandLine.Arguments
import PagedResults.Proofs.CommandLine.Listing
