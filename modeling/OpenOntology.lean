import OpenOntology.Replica.ContentAddressed
import OpenOntology.Resolution.Deliveries
import OpenOntology.GraphRag.Attribution
import OpenOntology.Bridge.Laws
import OpenOntology.Crdt.Wire
import OpenOntology.Crdt.EdgeIdentity
import OpenOntology.Crdt.ObservedRemove
import OpenOntology.Worker.Classification
import OpenOntology.Worker.Loop
import OpenOntology.Resolution.Accounting
import OpenOntology.Replica.Observations
import OpenOntology.Replica.Ownership
import OpenOntology.Intercept.Replays
import OpenOntology.Intercept.Limiters
import OpenOntology.Worker.Lapse
import OpenOntology.Worker.Attribution
import OpenOntology.Worker.Degraded
import OpenOntology.Worker.EffectivelyOnce
import OpenOntology.Resolution.Timestamps
import OpenOntology.Bridge.Cascades
import OpenOntology.Crdt.Cascade
import OpenOntology.Crdt.Stability
import OpenOntology.Worker.Sequencing
import OpenOntology.Worker.Publication
import OpenOntology.Worker.RateGate
import OpenOntology.Resolution.ClaimOwnership
import OpenOntology.Resolution.Fingerprint
import OpenOntology.Resolution.Judgement
import OpenOntology.Resolution.Tokens
import OpenOntology.Resolution.Pruning
import OpenOntology.Resolution.Backoff
import OpenOntology.Resolution.SensorIndex
import OpenOntology.Bridge.Targets
import OpenOntology.Graph.FirstCall
import OpenOntology.Intercept.Answers
import OpenOntology.Intercept.Reply
import OpenOntology.Worker.Credentials
import OpenOntology.Graph.ContextCache
import OpenOntology.Resolution.MetricsPage
import OpenOntology.GraphRag.OfflineRuns
import OpenOntology.Intercept.Governance
import OpenOntology.Graph.Adapter
import OpenOntology.Graph.AdapterGuarantees
