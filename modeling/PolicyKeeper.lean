import PolicyKeeper.Admin.Server
import PolicyKeeper.Deployment
import PolicyKeeper.Document.Catalog
import PolicyKeeper.Document.Config
import PolicyKeeper.Store.Rehearsal
import PolicyKeeper.Proofs.Fields
import PolicyKeeper.Proofs.Location
import PolicyKeeper.Proofs.Text.SelfMatch
import PolicyKeeper.Proofs.Finding
import PolicyKeeper.Proofs.Store.Keyed
import PolicyKeeper.Proofs.Writing
import PolicyKeeper.Proofs.Listing
import PolicyKeeper.Proofs.Changes
import PolicyKeeper.Proofs.Rights
import PolicyKeeper.Proofs.Mirror
import PolicyKeeper.Proofs.Placeholder
import PolicyKeeper.Proofs.Holding
import PolicyKeeper.Proofs.Careful
import PolicyKeeper.Proofs.Integrity
import PolicyKeeper.Proofs.Replacing
import PolicyKeeper.Proofs.Editing
import PolicyKeeper.Proofs.Keeping
import PolicyKeeper.Proofs.Settling
import PolicyKeeper.Proofs.Store.Passing
import PolicyKeeper.Proofs.Retrying
import PolicyKeeper.Proofs.Expelling
import PolicyKeeper.Proofs.Reaching
import PolicyKeeper.Proofs.Undoing
import PolicyKeeper.Proofs.Locating
import PolicyKeeper.Proofs.Clearing
import PolicyKeeper.Proofs.Adding
import PolicyKeeper.Proofs.Naming
import PolicyKeeper.Proofs.Acquiring
import PolicyKeeper.Proofs.Stepwise
import PolicyKeeper.Proofs.Withdrawing
import PolicyKeeper.Proofs.Membership
import PolicyKeeper.Proofs.Owning
import PolicyKeeper.Proofs.Repeating
import PolicyKeeper.Proofs.Swapping
import PolicyKeeper.Proofs.Seeding
import PolicyKeeper.Proofs.Searching
import PolicyKeeper.Proofs.Looking
import PolicyKeeper.Proofs.Carrying
import PolicyKeeper.Proofs.Handing
import PolicyKeeper.Proofs.Declining
import PolicyKeeper.Proofs.Returning
import PolicyKeeper.Proofs.Document.Recovering
import PolicyKeeper.Proofs.Document.Rewriting
import PolicyKeeper.Proofs.Admin.Judging
import PolicyKeeper.Proofs.Admin.Addressing
import PolicyKeeper.Proofs.Path.Translating
import PolicyKeeper.Proofs.Path.Identifying
import PolicyKeeper.Proofs.Store.Failing
import PolicyKeeper.Proofs.Entitling
import PolicyKeeper.Proofs.Nesting
import PolicyKeeper.Proofs.Registering
import PolicyKeeper.Proofs.Configuring
