import Polyglot.Embedding
import Polyglot.Proofs.Call.Acceptance
import Polyglot.Proofs.Call.Delivery
import Polyglot.Proofs.Call.Guard
import Polyglot.Proofs.Call.Order
import Polyglot.Proofs.Call.Site
import Polyglot.Proofs.Guest.Globals
import Polyglot.Proofs.Guest.Linkage
import Polyglot.Proofs.Guest.Running
import Polyglot.Proofs.Guest.StaticSlots
import Polyglot.Proofs.Host.Action
import Polyglot.Proofs.Host.Activity
import Polyglot.Proofs.Host.Aliasing
import Polyglot.Proofs.Host.Answers
import Polyglot.Proofs.Host.Assembly
import Polyglot.Proofs.Host.Atomicity
import Polyglot.Proofs.Host.Callbacks
import Polyglot.Proofs.Host.Claim
import Polyglot.Proofs.Host.Claimant
import Polyglot.Proofs.Host.Commuting
import Polyglot.Proofs.Host.Compiling
import Polyglot.Proofs.Host.Configured
import Polyglot.Proofs.Host.Contention
import Polyglot.Proofs.Host.Extensions
import Polyglot.Proofs.Host.Growth
import Polyglot.Proofs.Host.Instantiation
import Polyglot.Proofs.Host.Journal
import Polyglot.Proofs.Host.LetterCase
import Polyglot.Proofs.Host.Loading
import Polyglot.Proofs.Host.Located
import Polyglot.Proofs.Host.Lookups
import Polyglot.Proofs.Host.Origin
import Polyglot.Proofs.Host.Outcome
import Polyglot.Proofs.Host.Owner
import Polyglot.Proofs.Host.Ownership
import Polyglot.Proofs.Host.Queries
import Polyglot.Proofs.Host.Recording
import Polyglot.Proofs.Host.Registering
import Polyglot.Proofs.Host.Reporting
import Polyglot.Proofs.Host.Selection
import Polyglot.Proofs.Host.Session
import Polyglot.Proofs.Host.Verdict
import Polyglot.Proofs.Language.Extension
import Polyglot.Proofs.Language.Listing
import Polyglot.Proofs.Language.Names
import Polyglot.Proofs.Language.Registration
import Polyglot.Proofs.Language.Spelling
import Polyglot.Proofs.Language.Tables
import Polyglot.Proofs.Store.Assignment
import Polyglot.Proofs.Store.Chains
import Polyglot.Proofs.Store.Filing
import Polyglot.Proofs.Store.Frame
import Polyglot.Proofs.Store.Holding
import Polyglot.Proofs.Store.Numbers
import Polyglot.Proofs.Store.Operation
import Polyglot.Proofs.Store.Request
import Polyglot.Proofs.Store.Static
import Polyglot.Proofs.Symbol.Numbering
import Polyglot.Proofs.Tally.Isolation
import Polyglot.Proofs.Tally.Linking
import Polyglot.Proofs.Tally.Meaning
import Polyglot.Proofs.Tally.Module
import Polyglot.Proofs.Tally.Splitting
import Polyglot.Proofs.Text.LetterCase
import Polyglot.Proofs.Text.Lines
import Polyglot.Proofs.Text.Lowercase
import Polyglot.Proofs.Text.Trimming
import Polyglot.Proofs.Value.Equality
import Polyglot.Proofs.Value.Quantity
import Polyglot.Symbol.Table
