import Autocomplete.Format
import Autocomplete.Json.Render
import Autocomplete.Proofs.Scan.CheckedSearch
import Autocomplete.Proofs.Scan.Looping
import Autocomplete.Proofs.Scan.Ahead
import Autocomplete.Proofs.Scan.Progress
import Autocomplete.Proofs.Scan.Slice
import Autocomplete.Proofs.Store.Duplicates
import Autocomplete.Proofs.Session.History
import Autocomplete.Proofs.Scan.Captures
import Autocomplete.Proofs.Scan.Bracket
import Autocomplete.Proofs.Scan.Places
import Autocomplete.Proofs.Swift.Signatures
import Autocomplete.Proofs.Scan.Reading
import Autocomplete.Proofs.Store.Members
import Autocomplete.Proofs.Swift.Bodies
import Autocomplete.Proofs.Swift.Enumerations
import Autocomplete.Proofs.ObjectiveC.Headers
import Autocomplete.Proofs.Swift.Calls
import Autocomplete.Proofs.Scan.Keywords
import Autocomplete.Proofs.Swift.Fields
import Autocomplete.Proofs.Swift.DeclaredNames
import Autocomplete.Proofs.Words.Repair
import Autocomplete.Proofs.Snippet.Extracted
import Autocomplete.Proofs.Words.Recency
import Autocomplete.Proofs.Words.Narrowing
import Autocomplete.Proofs.Words.Limits
import Autocomplete.Proofs.Words.Agreement
import Autocomplete.Proofs.Outline.Covering
import Autocomplete.Proofs.Outline.Balance
import Autocomplete.Proofs.Snippet.TopLevel
import Autocomplete.Proofs.TypeGuess.Memory
import Autocomplete.Proofs.React.Components
import Autocomplete.Proofs.Session.Owners
import Autocomplete.Proofs.Session.Requests
import Autocomplete.Proofs.Session.Lookback
import Autocomplete.Proofs.Words.Consulted
import Autocomplete.Proofs.Words.Blocks
import Autocomplete.Proofs.Document.LineLookup
import Autocomplete.Proofs.Scan.Neutral
import Autocomplete.Proofs.Scan.Depth
import Autocomplete.Proofs.Scan.Literals
import Autocomplete.Proofs.Scan.Requirements
import Autocomplete.Proofs.Scan.SharedBuffer
import Autocomplete.Proofs.Text.Pruning
import Autocomplete.Proofs.Words.Merging
