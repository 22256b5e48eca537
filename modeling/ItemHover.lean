import ItemHover.Main
import ItemHover.Proofs.Engine.UpToDate
import ItemHover.Proofs.Engine.Watching
import ItemHover.Proofs.File.Edit
import ItemHover.Proofs.Hover.Format
import ItemHover.Proofs.Name.Fate
import ItemHover.Proofs.Name.Order
import ItemHover.Proofs.Pattern.Bracket
import ItemHover.Proofs.Pattern.Closing
import ItemHover.Proofs.Pattern.Counts
import ItemHover.Proofs.Pattern.Meaning
import ItemHover.Proofs.Pattern.Token
import ItemHover.Proofs.Session.Run
import ItemHover.Proofs.Settings.File
import ItemHover.Proofs.Template.Functions
import ItemHover.Proofs.Template.Lines
import ItemHover.Proofs.Template.Occurrence
import ItemHover.Proofs.Template.Variables
import ItemHover.Proofs.Threads.Alone
import ItemHover.Proofs.Threads.Generations
import ItemHover.Proofs.Threads.Signals
import ItemHover.Proofs.Threads.Stale
import ItemHover.Proofs.Pattern.Anchors
import ItemHover.Proofs.Name.Selection
import ItemHover.Proofs.Hover.Loading
import ItemHover.Proofs.Name.Repeat
import ItemHover.Proofs.Number.Grouping
import ItemHover.Proofs.Catalog.Listing
import ItemHover.Proofs.Template.Cursor
import ItemHover.Proofs.Engine.Relevance
