import OpenOntology.GraphRag.Contracts

/-!
# The maintenance manual

The chunks the planner is grounded in: procedure templates whose placeholders the live
topology fills, and the metadata that decides which command a chunk may lead. The shipped
corpus follows at the end.
-/
namespace OpenOntology.GraphRag

/-! ## Templates -/

/-- A stretch of a format string: literal text, or a placeholder. -/
inductive Piece where
  | text (literal : String)
  | field (placeholder : String)

abbrev Template := List Piece

/-- `format_map` with the mapping that answers an unknown placeholder by a safe phrase. -/
def formatMap (context : List (String × String)) (template : Template) : String :=
  String.join (template.map fun
    | .text literal => literal
    | .field placeholder => (context.lookup placeholder).getD "the affected component")

/-- `" ".join(text.split())`. -/
def collapse (text : String) : String :=
  " ".intercalate (((text.toList.splitOnP Python.isSpace).filter (· ≠ [])).map String.ofList)

/-- `_render`. -/
def render (template : Template) (context : List (String × String)) : String :=
  collapse (formatMap context template)

/-! ## Chunks -/

structure ProcedureStep where
  actor : StepActor
  instruction : Template
  verification : Template
  reversible : Bool := true
  estimatedSeconds : Nat := 120

/-- No family, action or classification named means that the chunk applies to all. -/
structure ManualChunk where
  docID : String
  title : String
  source : String
  body : String
  procedure : List ProcedureStep
  modelFamilies : List String := []
  applicableActions : List ActionType := []
  classifications : List FaultClassification := []
  tags : List String := []
  supplementary : Bool := false

namespace ManualChunk

/-- The chunk leads a plan for the action: supplementary chunks augment, never lead. -/
def leads (chunk : ManualChunk) (action : ActionType) : Bool :=
  !chunk.supplementary &&
    (chunk.applicableActions.isEmpty || chunk.applicableActions.contains action)

/-- The chunk is the supplementary material tagged so. -/
def supplements (chunk : ManualChunk) (tag : String) : Bool :=
  chunk.supplementary && chunk.tags.contains tag

/-- Irreversible work is in chunks that only lead an emergency shutdown. -/
def Prudent (chunk : ManualChunk) : Prop :=
  (∃ step ∈ chunk.procedure, step.reversible = false) →
    chunk.supplementary = false ∧ chunk.applicableActions = [.emergencyShutdown]

instance (chunk : ManualChunk) : Decidable chunk.Prudent :=
  inferInstanceAs (Decidable ((∃ step ∈ chunk.procedure, step.reversible = false) → _))

/-- A closing chunk is short, reversible and ends with the handover to a supervisor. -/
def Closes (chunk : ManualChunk) : Prop :=
  chunk.supplements "closure" = true →
    chunk.procedure.length ≤ 2 ∧ chunk.procedure.any (·.actor == .humanSupervisor) = true

instance (chunk : ManualChunk) : Decidable chunk.Closes :=
  inferInstanceAs (Decidable (chunk.supplements "closure" = true → _))

end ManualChunk

/-! ## The shipped corpus -/

def vibrationExcursion : ManualChunk where
  docID := "MM-ROT-004-7.3"
  title := "Rotating Equipment: Vibration Excursion Containment"
  source := "MAINT-MAN-ROT-004 sec. 7.3"
  body :=
    "Broadband velocity above the critical limit on a rotating assembly indicates bearing " ++
    "distress, coupling misalignment or rotor imbalance. Reduce shaft speed before any " ++
    "isolation attempt: closing a discharge path against a rotating assembly at speed " ++
    "drives the machine into surge. Confirm the reduced-speed vibration signature before " ++
    "committing to isolation, then close the discharge valve and lock the actuator."
  procedure :=
    [{ actor := .controlSystem
       instruction :=
         [.text "Ramp ", .field "target_name", .text " (", .field "target",
          .text (") to 60 percent of commanded speed over 90 seconds; hold and re-sample the " ++
            "vibration signature.")]
       verification := [.text "Vibration velocity trends downward within two sample windows."]
       estimatedSeconds := 120 },
     { actor := .roboticActuator
       instruction :=
         [.text "Close the discharge isolation valve on ", .field "target",
          .text (" to 20 percent, then to fully shut in two stages, monitoring differential " ++
            "pressure between stages.")]
       verification := [.text "Valve position feedback reads shut and downstream pressure decays."]
       estimatedSeconds := 180 },
     { actor := .humanTechnician
       instruction :=
         [.text "Apply mechanical lockout to the ", .field "target", .text " actuator at ",
          .field "location", .text " and tag the isolation against the work order."]
       verification := [.text "Lockout tag photographed and attached to the work order record."]
       estimatedSeconds := 300 }]
  modelFamilies := ["TRB", "PMP", "CMP", "FAN"]
  applicableActions := [.isolateValve, .degradeThrottle]
  classifications := [.localizedComponent]
  tags := ["vibration", "bearing", "rotating", "isolation", "surge"]

def hardThermalLimit : ManualChunk where
  docID := "MM-THM-011-2.1"
  title := "Hard Thermal Limit: Emergency Shutdown Sequence"
  source := "MAINT-MAN-THM-011 sec. 2.1"
  body :=
    "A metal temperature at or above the hard limit is a permit-to-operate breach. Trip the " ++
    "asset on its own emergency stop rather than by removing supply: an upstream cut leaves " ++
    "the rotor windmilling without lubrication. Maintain auxiliary lubrication and cooling " ++
    "through the coast-down, and evacuate the immediate radius before the trip lands."
  procedure :=
    [{ actor := .humanSupervisor
       instruction :=
         [.text "Clear personnel from the ", .field "location", .text (" radius and confirm " ++
            "the evacuation over the unit channel before the trip is armed.")]
       verification := [.text "Muster count confirmed against the site access log."]
       estimatedSeconds := 180 },
     { actor := .controlSystem
       instruction :=
         [.text "Arm and execute the emergency stop on ", .field "target_name", .text " (",
          .field "target", .text ("); hold auxiliary lubrication and cooling online through " ++
            "the full coast-down.")]
       verification :=
         [.text "Shaft speed reaches zero with lube oil pressure maintained above minimum."]
       reversible := false
       estimatedSeconds := 240 },
     { actor := .roboticActuator
       instruction :=
         [.text "Shut the supply isolation valve on ", .field "target", .text (" only after " ++
            "coast-down completes.")]
       verification :=
         [.text "Valve position feedback reads shut and inlet pressure decays to ambient."]
       reversible := false
       estimatedSeconds := 120 },
     { actor := .humanTechnician
       instruction :=
         [.text ("Record metal temperature at 5-minute intervals until it falls below the " ++
            "warn limit; do not break containment before then.")]
       verification := [.text "Three consecutive readings below the warn limit are logged."]
       estimatedSeconds := 1800 }]
  applicableActions := [.emergencyShutdown]
  classifications := [.localizedComponent, .inheritedCascade]
  tags := ["temperature", "thermal", "shutdown", "trip", "coast-down", "emergency"]

def upstreamFeedIsolation : ManualChunk where
  docID := "MM-CAS-021-4.4"
  title := "Upstream Feed Isolation for Inherited Cascade Faults"
  source := "MAINT-MAN-CAS-021 sec. 4.4"
  body :=
    "When the disturbance originates upstream, isolating the reporting asset removes the " ++
    "symptom and leaves the source live to propagate along its remaining paths. Stabilise " ++
    "the reporting asset first so it survives the transient, then isolate at the origin " ++
    "node, then verify that the intervening nodes recover on their own. Intervening nodes " ++
    "that do not recover after origin isolation are independent faults and need their own " ++
    "work orders."
  procedure :=
    [{ actor := .controlSystem
       instruction :=
         [.text "Hold ", .field "asset_name", .text " (", .field "asset", .text (") at " ++
            "reduced load to ride out the upstream transient; do not isolate the reporting " ++
            "asset yet.")]
       verification := [.text "Reporting asset remains within its warn band at reduced load."]
       estimatedSeconds := 120 },
     { actor := .roboticActuator
       instruction :=
         [.text "Close the outlet isolation valve at the cascade origin ", .field "target",
          .text " to arrest propagation along ", .field "cascade_summary", .text "."]
       verification := [.text "Origin outlet valve reads shut and its downstream pressure decays."]
       estimatedSeconds := 240 },
     { actor := .humanTechnician
       instruction :=
         [.text "Walk the cascade path ", .field "cascade_summary", .text (" and confirm each " ++
            "intervening node returns to nominal once the origin is isolated.")]
       verification :=
         [.text "Every intervening node is nominal, or is raised as an independent fault."]
       estimatedSeconds := 900 }]
  applicableActions := [.isolateValve, .emergencyShutdown]
  classifications := [.inheritedCascade]
  tags := ["cascade", "upstream", "propagation", "origin", "isolation"]

def throttleToSafeState : ManualChunk where
  docID := "MM-DEG-008-3.2"
  title := "Throttle to Safe State under Degraded Ontology Confidence"
  source := "MAINT-MAN-DEG-008 sec. 3.2"
  body :=
    "Where the asset register cannot be trusted -- an unresolved replication conflict, a " ++
    "tombstoned vertex still reporting, or diverging replicas -- no irreversible field " ++
    "action may be authorised. Throttle to the documented safe state, which is reversible " ++
    "from the control room, and force a graph reconciliation before escalating. Throttling " ++
    "buys time without committing the site to an action that cannot be undone."
  procedure :=
    [{ actor := .controlSystem
       instruction :=
         [.text "Throttle ", .field "target_name", .text " (", .field "target",
          .text (") to the documented safe-state setpoint and inhibit automatic setpoint " ++
            "recovery.")]
       verification := [.text "Setpoint reads safe-state and the recovery inhibit is latched."]
       estimatedSeconds := 90 },
     { actor := .humanTechnician
       instruction :=
         [.text "Verify the asset register entry for ", .field "target", .text (" against the " ++
            "physical nameplate at "), .field "location", .text " and report the discrepancy."]
       verification := [.text "Nameplate photograph attached to the reconciliation ticket."]
       estimatedSeconds := 600 }]
  applicableActions := [.degradeThrottle]
  classifications := [.indeterminate, .noFaultDetected]
  tags := ["degraded", "safe-state", "throttle", "reversible", "reconciliation", "crdt"]

def blastRadiusProtection : ManualChunk where
  docID := "MM-BLR-002-5.1"
  title := "Blast Radius Protection for Downstream Consumers"
  source := "MAINT-MAN-BLR-002 sec. 5.1"
  body :=
    "Before any supply interruption, place every downstream consumer into a state that " ++
    "tolerates loss of feed. Consumers taken out from under load trip on their own " ++
    "protection and turn one isolation into a unit-wide outage. Sequence the downstream " ++
    "transfer before the isolation, never after."
  procedure :=
    [{ actor := .controlSystem
       instruction :=
         [.text "Transfer downstream consumers ", .field "downstream_summary",
          .text " to standby feed or reduced load before the isolation lands."]
       verification := [.text "Each downstream consumer reports a stable state on standby feed."]
       estimatedSeconds := 180 },
     { actor := .humanSupervisor
       instruction :=
         [.text "Notify ", .field "operator", .text " and the ", .field "parent",
          .text " control room that ", .field "downstream_count", .text (" downstream node(s) " ++
            "are exposed by this action.")]
       verification := [.text "Acknowledgement received from the control room."]
       estimatedSeconds := 120 }]
  tags := ["blast", "downstream", "consumers", "standby", "protection"]
  supplementary := true

def crdtReconciliation : ManualChunk where
  docID := "MM-CRDT-014-1.6"
  title := "CRDT Reconciliation Before Irreversible Field Action"
  source := "MAINT-MAN-CRDT-014 sec. 1.6"
  body :=
    "The replicated asset graph converges without coordination, so a field crew may be " ++
    "acting on a vertex whose liveness is still contested. Where the add and remove stamps " ++
    "tie, or replicas disagree, force a reconciliation pass and re-read the vertex before " ++
    "committing an irreversible action. A tie resolves to removed on a leaf and to added " ++
    "where live downstream dependents exist; either way the resolution must be recorded " ++
    "against the work order."
  procedure :=
    [{ actor := .controlSystem
       instruction :=
         [.text "Force a reconciliation pass across the replicas holding ", .field "target",
          .text " and re-read the vertex once the merge settles."]
       verification := [.text "Vertex liveness is uncontested on every replica after the merge."]
       estimatedSeconds := 120 },
     { actor := .humanSupervisor
       instruction :=
         [.text ("Record the applied tie-breaker rule and the resolved liveness against the " ++
            "work order before authorising field work on "), .field "target", .text "."]
       verification := [.text "Tie-breaker rule and resolved presence captured in the work order."]
       estimatedSeconds := 180 }]
  tags := ["crdt", "lamport", "reconciliation", "replica", "tie-breaker", "convergence"]
  supplementary := true

def actuatorLockout : ManualChunk where
  docID := "MM-LOTO-006-9.2"
  title := "Valve Actuator Lockout and Tagout"
  source := "MAINT-MAN-LOTO-006 sec. 9.2"
  body :=
    "A commanded-shut valve is not an isolation until its actuator is mechanically locked " ++
    "and the stored energy is bled. Prove the isolation by attempting to open against the " ++
    "lock, then bleed the trapped volume to a safe receiver."
  procedure :=
    [{ actor := .humanTechnician
       instruction :=
         [.text "Lock the ", .field "target", .text (" actuator in the shut position and " ++
            "attempt a controlled open to prove the lock holds.")]
       verification := [.text "Actuator does not move under the open command; lock proven."]
       estimatedSeconds := 420 },
     { actor := .humanTechnician
       instruction :=
         [.text "Bleed trapped volume downstream of ", .field "target", .text (" to the safe " ++
            "receiver and confirm zero gauge pressure.")]
       verification := [.text "Local gauge reads zero and the bleed is witnessed."]
       estimatedSeconds := 300 }]
  applicableActions := [.isolateValve, .emergencyShutdown]
  tags := ["lockout", "tagout", "valve", "actuator", "stored-energy", "loto"]
  supplementary := true

def exchangerFouling : ManualChunk where
  docID := "MM-HEX-017-6.5"
  title := "Heat Exchanger Fouling and Differential Pressure"
  source := "MAINT-MAN-HEX-017 sec. 6.5"
  body :=
    "Rising differential pressure with rising outlet temperature indicates tube-side " ++
    "fouling. Throttle rather than isolate while the bundle is hot: a cold-side isolation " ++
    "on a hot bundle thermally shocks the tube sheet."
  procedure :=
    [{ actor := .controlSystem
       instruction :=
         [.text "Reduce throughput across ", .field "target_name", .text " (", .field "target",
          .text (") in 10 percent decrements until differential pressure falls below the warn " ++
            "limit.")]
       verification := [.text "Differential pressure below warn limit for two sample windows."]
       estimatedSeconds := 300 },
     { actor := .humanTechnician
       instruction :=
         [.text "Raise a bundle cleaning work order against ", .field "target",
          .text " for the next window at ", .field "location", .text "."]
       verification := [.text "Work order number recorded against the asset."]
       estimatedSeconds := 600 }]
  modelFamilies := ["HX", "HEX", "COOL"]
  applicableActions := [.degradeThrottle, .isolateValve]
  tags := ["fouling", "differential", "exchanger", "thermal-shock", "throttle"]

def loopSaturation : ManualChunk where
  docID := "MM-CTL-009-2.8"
  title := "Control Loop Saturation and Actuator Wind-Up"
  source := "MAINT-MAN-CTL-009 sec. 2.8"
  body :=
    "A saturated loop reports a deviation the plant cannot close. Break the loop to manual " ++
    "at the last known good output before the integrator winds further; isolating the " ++
    "actuator while the loop is saturated produces a step change on release."
  procedure :=
    [{ actor := .controlSystem
       instruction :=
         [.text "Place the ", .field "target", .text (" control loop in manual at the last " ++
            "known good output and clear the integrator.")]
       verification :=
         [.text "Loop reads manual, output matches the last good value, integrator cleared."]
       estimatedSeconds := 60 },
     { actor := .humanTechnician
       instruction :=
         [.text "Stroke the ", .field "target", .text (" actuator locally through its range " ++
            "and record the response against the commissioning curve.")]
       verification := [.text "Stroke response is within the commissioning tolerance."]
       estimatedSeconds := 900 }]
  modelFamilies := ["CTRL", "FADEC", "PLC"]
  applicableActions := [.degradeThrottle]
  tags := ["control", "saturation", "wind-up", "manual", "loop"]

def workOrderCapture : ManualChunk where
  docID := "MM-CLS-001-8.9"
  title := "Post-Intervention Verification and Work Order Capture"
  source := "MAINT-MAN-CLS-001 sec. 8.9"
  body :=
    "Every intervention closes the same way: prove the intended physical state, write the " ++
    "resulting state back to the asset graph so the next mutation is evaluated against " ++
    "reality, and hand the asset to the accountable operator with an explicit next action."
  procedure :=
    [{ actor := .humanTechnician
       instruction :=
         [.text "Confirm the achieved physical state of ", .field "target",
          .text " and write the resulting status back to the asset graph vertex."]
       verification := [.text "Graph vertex status matches the observed physical state."]
       estimatedSeconds := 240 },
     { actor := .humanSupervisor
       instruction :=
         [.text "Hand ", .field "target", .text " to ", .field "operator",
          .text " with the recorded evidence and the agreed next action."]
       verification := [.text "Handover acknowledged by the accountable operator."]
       estimatedSeconds := 180 }]
  tags := ["verification", "closure", "handover", "work-order", "graph-writeback"]
  supplementary := true

def maintenanceCorpus : List ManualChunk :=
  [vibrationExcursion, hardThermalLimit, upstreamFeedIsolation, throttleToSafeState,
    blastRadiusProtection, crdtReconciliation, actuatorLockout, exchangerFouling,
    loopSaturation, workOrderCapture]

theorem maintenanceCorpus_prudent : ∀ chunk ∈ maintenanceCorpus, chunk.Prudent := by
  decide

theorem maintenanceCorpus_distinct : (maintenanceCorpus.map ManualChunk.docID).Nodup := by
  decide

theorem maintenanceCorpus_closes : ∀ chunk ∈ maintenanceCorpus, chunk.Closes := by
  decide

end OpenOntology.GraphRag
