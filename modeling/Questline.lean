import Questline.Flags.Save
import Questline.Main
import Questline.Proofs.Aliases
import Questline.Proofs.Condition.RoundTrip
import Questline.Proofs.Dispatch.Additions
import Questline.Proofs.Dispatch.AnswerLaw
import Questline.Proofs.Dispatch.Backends
import Questline.Proofs.Dispatch.Bindings
import Questline.Proofs.Dispatch.Rejoining
import Questline.Proofs.Dispatch.Routing
import Questline.Proofs.Dispatch.Session
import Questline.Proofs.Dispatch.Summary
import Questline.Proofs.Facets
import Questline.Proofs.Flags.Custody
import Questline.Proofs.Program
import Questline.Proofs.Quest.Atomicity
import Questline.Proofs.Quest.Catalog
import Questline.Proofs.Quest.Coherence
import Questline.Proofs.Quest.Defects
import Questline.Proofs.Quest.History
import Questline.Proofs.Quest.Interleaving
import Questline.Proofs.Quest.Isolation
import Questline.Proofs.Quest.Lifecycle
import Questline.Proofs.Quest.Relevance
import Questline.Proofs.Quest.Unlocking
