import OpenOntology.Graph.ContextCache
import OpenOntology.Library.Run
import OpenOntology.Library.SlidingWindow

/-!
# The adapter in front of Neo4j

Any number of workers resolve assets through one adapter: each call looks into the cache,
takes the resolver or dials for one, asks it and caches the answer. Between any two accesses
to the shared fields another call may go on, and the adapter may be closed.
-/
namespace OpenOntology.Graph

open Resolution (Time Duration)
open Library

def neo4jRedialInterval : Duration := 15 * 1000000000

/-- The errors `ResolveAsset` returns. -/
inductive GraphError where
  /-- `ErrGraphDisconnected`, with the reason of the last handshake -/
  | disconnected (cause : Option String)
  /-- `ErrAssetNotFound` -/
  | assetNotFound
  | failed (message : String)
  deriving DecidableEq

/-- Where a call stands; resolvers are numbered by their handshakes. -/
inductive CallPhase where
  | idle
  /-- the lookup is counted -/
  | looking
  /-- the cache had the context -/
  | hitting (context : OntologyContext)
  /-- about to read the resolver -/
  | connecting
  /-- found none; about to compare and swap -/
  | contending
  /-- admitted to dial; about to read the resolver again -/
  | admitted
  /-- found none again, and the time before which not to dial -/
  | holding (notBefore : Time)
  | dialing (started : Time)
  /-- the handshake is over, and failed with the text if there is one -/
  | dialed (started : Time) (failure : Option String)
  /-- about to read why the last handshake failed -/
  | refused (owner : Bool)
  /-- about to let the next one dial -/
  | releasing (outcome : Except GraphError ℕ)
  | querying (resolver : ℕ)
  | storing (context : OntologyContext)
  /-- about to count the error -/
  | failing (error : GraphError)
  /-- about to count the absence -/
  | missing

/-- The call holds the right to dial. -/
def CallPhase.owns : CallPhase → Bool
  | .admitted | .holding _ | .dialing _ | .dialed _ _ | .refused true | .releasing _ => true
  | _ => false

/-- A caller and the asset it resolves; the constructor dials for none. -/
structure Caller where
  asset : Option String := none
  phase : CallPhase := .idle

/-- A handshake that was recorded: whether it succeeded, and whether the adapter had been
closed by then. -/
structure Dial where
  started : Time
  ended : Time
  succeeded : Bool
  late : Bool

/-- A context and whether the cache had it. -/
abbrev Answer := Except GraphError (OntologyContext × Bool)

/-- `Neo4jGraphAdapter`, with its callers. The handshakes so far, oldest first, the resolvers
that `Close` closed and the answers given are for the record. -/
structure Neo4jGraphAdapter (ι : Type) where
  cache : GraphContextCache
  resolver : Option ℕ := none
  dialErr : Option String := none
  nextDialAt : Time := 0
  dialingFlag : Bool := false
  lookups : ℕ := 0
  hits : ℕ := 0
  errs : ℕ := 0
  absent : ℕ := 0
  closed : Bool := false
  clock : Time := 0
  caller : ι → Caller := fun _ => {}
  dials : List Dial := []
  released : List ℕ := []
  answers : List Answer := []

inductive AdapterEvent (ι : Type) where
  /-- the constructor connects -/
  | boot (i : ι)
  | call (i : ι) (asset : String)
  /-- a call goes on, with the clock as it reads it -/
  | advance (i : ι) (now : Time)
  /-- `dial` returns -/
  | handshake (i : ι) (failure : Option String)
  /-- the resolver returns -/
  | resolved (i : ι) (result : Except GraphError OntologyNeighbourhood)
  | close

namespace Neo4jGraphAdapter

variable {ι : Type} [DecidableEq ι]

def newNeo4jGraphAdapter (ttl : Duration) : Neo4jGraphAdapter ι where
  cache := newGraphContextCache ttl

section
variable (s : Neo4jGraphAdapter ι)

/-- The caller moves to the phase. -/
def move (i : ι) (phase : CallPhase) : Neo4jGraphAdapter ι :=
  { s with caller := Function.update s.caller i { s.caller i with phase } }

/-- `ResolveAsset` returns. -/
def finish (i : ι) (answer : Answer) : Neo4jGraphAdapter ι :=
  { s with caller := Function.update s.caller i {}, answers := answer :: s.answers }

/-- `connect` returns to the caller. -/
def connected (i : ι) (outcome : Except GraphError ℕ) : Neo4jGraphAdapter ι :=
  match (s.caller i).asset, outcome with
  | none, _ => { s with caller := Function.update s.caller i {} }
  | some _, .ok n => s.move i (.querying n)
  | some _, .error error => s.move i (.failing error)

/-- What the caller does next by itself. -/
def advance (i : ι) : Option (Neo4jGraphAdapter ι) :=
  match (s.caller i).phase with
  | .idle => none
  | .looking => (s.caller i).asset.map fun asset =>
    match s.cache.lookup asset s.clock with
    | some context => s.move i (.hitting context)
    | none => s.move i .connecting
  | .hitting context => some ({ s with hits := s.hits + 1 }.finish i (.ok (context, true)))
  | .connecting => some <| match s.resolver with
    | some n => s.connected i (.ok n)
    | none => s.move i .contending
  | .contending => some <|
    if s.dialingFlag then s.move i (.refused false)
    else { s with dialingFlag := true }.move i .admitted
  | .admitted => some <| match s.resolver with
    | some n => s.move i (.releasing (.ok n))
    | none => s.move i (.holding s.nextDialAt)
  | .holding notBefore => some <|
    if s.clock < notBefore then s.move i (.refused true) else s.move i (.dialing s.clock)
  | .dialing _ => none
  | .dialed started failure => some <|
    let s := { s with dials := s.dials ++ [Dial.mk started s.clock failure.isNone s.closed] }
    match failure with
    | some err =>
      { s with dialErr := some err, nextDialAt := s.clock + neo4jRedialInterval }.move i
        (.releasing (.error (.disconnected (some err))))
    | none =>
      { s with resolver := some (s.dials.length - 1), dialErr := none }.move i
        (.releasing (.ok (s.dials.length - 1)))
  | .refused owner => some <|
    if owner then s.move i (.releasing (.error (.disconnected s.dialErr)))
    else s.connected i (.error (.disconnected s.dialErr))
  | .releasing outcome => some ({ s with dialingFlag := false }.connected i outcome)
  | .querying _ => none
  | .storing context => (s.caller i).asset.map fun asset =>
    { s with cache := s.cache.store asset context s.clock s.clock }.finish i (.ok (context, false))
  | .failing error =>
    let s := { s with errs := s.errs + 1 }
    some <| if error = .assetNotFound then s.move i .missing else s.finish i (.error error)
  | .missing => some ({ s with absent := s.absent + 1 }.finish i (.error .assetNotFound))

/-- `Close`, of which only the first does anything. -/
def close : Neo4jGraphAdapter ι :=
  if s.closed then s
  else { s with closed := true, resolver := none, released := s.resolver.toList }

def step : AdapterEvent ι → Option (Neo4jGraphAdapter ι)
  | .boot i => match (s.caller i).phase with
    | .idle => some { s with caller := Function.update s.caller i ⟨none, .connecting⟩ }
    | _ => none
  | .call i asset => match (s.caller i).phase with
    | .idle => some { s with
        lookups := s.lookups + 1
        caller := Function.update s.caller i ⟨some asset, .looking⟩ }
    | _ => none
  | .advance i now => if s.clock ≤ now then { s with clock := now }.advance i else none
  | .handshake i failure => match (s.caller i).phase with
    | .dialing started => some (s.move i (.dialed started failure))
    | _ => none
  | .resolved i result => match (s.caller i).phase, (s.caller i).asset with
    | .querying _, some asset => some <| match result with
      | .ok neighbourhood => s.move i (.storing (ontologyContextFrom asset neighbourhood))
      | .error error => s.move i (.failing error)
    | _, _ => none
  | .close => some s.close

end

end Neo4jGraphAdapter

end OpenOntology.Graph
