import Switchboard.Main
import Switchboard.Router.Describe
import Switchboard.Proofs.Parts
import Switchboard.Proofs.Patterns
import Switchboard.Proofs.Tables
import Switchboard.Proofs.Resolutions
import Switchboard.Proofs.Runs
import Switchboard.Proofs.Batches
import Switchboard.Proofs.Blueprints
import Switchboard.Proofs.Provision
import Switchboard.Proofs.Admission
import Switchboard.Proofs.Matching
import Switchboard.Proofs.Handling
import Switchboard.Proofs.Isolation
import Switchboard.Proofs.Coherence
import Switchboard.Proofs.Acceptance
import Switchboard.Proofs.Fallbacks
import Switchboard.Proofs.Captured
import Switchboard.Proofs.Effects
import Switchboard.Proofs.Truthfulness
import Switchboard.Proofs.Likeness
import Switchboard.Proofs.Lockstep
import Switchboard.Proofs.Batching
import Switchboard.Proofs.Secrecy
import Switchboard.Proofs.Courses
import Switchboard.Proofs.Instances
import Switchboard.Proofs.Lines
import Switchboard.Proofs.Usability
import Switchboard.Proofs.Reaching
import Switchboard.Proofs.Registering
import Switchboard.Proofs.Listings
import Switchboard.Proofs.Records
import Switchboard.Proofs.Completions
import Switchboard.Proofs.Accounts
import Switchboard.Proofs.Grammar
import Switchboard.Proofs.Verdicts
import Switchboard.Proofs.Layers
import Switchboard.Proofs.Composed
import Switchboard.Proofs.Usual
import Switchboard.Proofs.Spellings
import Switchboard.Proofs.Serving
import Switchboard.Proofs.Locations
import Switchboard.Proofs.PathGrammar
import Switchboard.Proofs.Parameters
import Switchboard.Proofs.Loading
import Switchboard.Proofs.Memo
import Switchboard.Proofs.Concatenation
import Switchboard.Proofs.Visits
import Switchboard.Proofs.Displays
import Switchboard.Proofs.Stems
import Switchboard.Proofs.Shapes
