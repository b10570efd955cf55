import Worklist.Text.Blank
import Worklist.Text.Lowercase
import Worklist.Text.Quoted
import Worklist.Text.Similarity
import Worklist.Text.Numeral
import Worklist.Json.Writer
import Worklist.Tracker.Stored
import Worklist.Tracker.Scope
import Worklist.Filter.Writer
import Worklist.Listing.Items
import Worklist.Filter.Tree
import Worklist.Storage.DatasetStore
import Worklist.Toml.Reader
import Worklist.Config.Store
import Worklist.Display.Outline
import Worklist.Display.Links
import Worklist.Display.WorkItems
import Worklist.Display.Config
import Worklist.CommandLine.Run
import Worklist.Main
import Worklist.Proofs.Filter.Evaluation
import Worklist.Proofs.Except
import Worklist.Proofs.Filter.Literal
import Worklist.Proofs.Json.Tree
import Worklist.Proofs.Json.Keys
import Worklist.Proofs.Filter.Reading
import Worklist.Proofs.Filter.RoundTrip
import Worklist.Proofs.Filter.Composition
import Worklist.Proofs.Filter.Composer
import Worklist.Proofs.Filter.Kinds
import Worklist.Proofs.Tracker.Record
import Worklist.Proofs.Tracker.Scope
import Worklist.Proofs.Listing.Order
import Worklist.Proofs.Listing.Exactness
import Worklist.Proofs.Paging.Links
import Worklist.Proofs.Paging.Geometry
import Worklist.Proofs.Listing.Enumeration
import Worklist.Proofs.Filter.Grammar
import Worklist.Proofs.Json.Scalar
import Worklist.Proofs.Json.Layout
import Worklist.Proofs.Json.RoundTrip
import Worklist.Proofs.Filter.Depth
import Worklist.Proofs.Filter.Text
import Worklist.Proofs.Pattern.Ways
import Worklist.Proofs.Registry.Runs
import Worklist.Proofs.Pattern.Matching
import Worklist.Proofs.Pattern.Words
import Worklist.Proofs.Registry.Links
import Worklist.Proofs.Listing.Resolution
import Worklist.Proofs.Json.Locality
import Worklist.Proofs.Json.Splice
import Worklist.Proofs.Filter.Joined
import Worklist.Proofs.Listing.Search
import Worklist.Proofs.Timestamp
import Worklist.Proofs.Json.Decoding
import Worklist.Proofs.Tracker.Stored
import Worklist.Proofs.Storage.Path
import Worklist.Proofs.Storage.FileTree
import Worklist.Proofs.Storage.Directories
import Worklist.Proofs.Storage.Saving
import Worklist.Proofs.Toml.Quoted
import Worklist.Proofs.Toml.Reader
import Worklist.Proofs.Config.Stored
import Worklist.Proofs.Storage.Shape
import Worklist.Proofs.Config.Store
import Worklist.Proofs.CommandLine.Procedure
import Worklist.Proofs.CommandLine.Run
import Worklist.Proofs.CommandLine.Settings
import Worklist.Proofs.Tracker.Backlog
import Worklist.Proofs.Filter.Faults
import Worklist.Proofs.Filter.Truth
import Worklist.Proofs.Paging.Requests
import Worklist.Proofs.Paging.Backwards
import Worklist.Proofs.Filter.Stepwise
import Worklist.Proofs.Text.Lowercase
import Worklist.Proofs.Listing.Titles
import Worklist.Proofs.Json.Written
import Worklist.Proofs.Filter.Sites
import Worklist.Proofs.Filter.Members
import Worklist.Proofs.Filter.Negation
import Worklist.Proofs.Filter.Choice
import Worklist.Proofs.Filter.Culprits
import Worklist.Proofs.Filter.Sets
import Worklist.Proofs.Listing.Effects
import Worklist.Proofs.Listing.Emptiness
import Worklist.Proofs.Pattern.Visits
import Worklist.Proofs.Registry.Order
import Worklist.Proofs.Paging.Words
import Worklist.Proofs.Text.Quoted
import Worklist.Proofs.Display.Colors
import Worklist.Proofs.Filter.Displayed
