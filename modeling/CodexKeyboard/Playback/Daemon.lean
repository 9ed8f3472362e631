import CodexKeyboard.Playback.Host
import CodexKeyboard.Store.Leases
/-!
# The daemon's playbacks

`src/app/host/src/health.rs`: what the main loop does with the events of the LAN thread. `active` is
a `BTreeMap<u64, ActiveHostPlayback>`, a list in key order. The random lease ids, the bundle that
the cache has for a lease and whether the channel to the LAN thread takes a command are inputs of
the event. The log lines are left out, and with them the signal level they print. `failures` is
history: the store calls that failed.

`DaemonEvent.other` is a call on the store by another thread: the observer, the summary worker, the
control socket. Only the main loop calls the operations of playback.

| here | there |
| --- | --- |
| `ActiveHostPlayback` | health.rs:419 |
| `handlePlaybackEvent` | `handle_lan_playback_event` (health.rs:427) |
| `beginLanPlayback` | `begin_lan_playback` (health.rs:498) |
-/

namespace CodexKeyboard.Playback

open Lib Voice Store

structure ActiveHostPlayback where
  lease : PlaybackLease
  identity : PlaybackIdentity
  totalSamples : Nat
  heardCommitted : Bool
deriving DecidableEq, Repr

/-- What the cache has for a lease, transcoded for the device. -/
structure LoadedSummary where
  eiad : Bytes
  totalSamples : Nat
deriving DecidableEq, Repr

structure HostDaemon where
  store : StoreDb
  active : List (Nat × ActiveHostPlayback) := []
  commands : List LanPlaybackCommand := []
  failures : Nat := 0
deriving DecidableEq, Repr

inductive DaemonEvent where
  | request (request : PlaybackRequest) (source : SocketAddr) (connected : Bool) (draws : List Nat)
    (loaded : Option LoadedSummary)
  /-- `cleaned` is what `reconcile_with` answers. -/
  | finished (finished : PlaybackFinished) (cleaned connected : Bool)
  | cancelled (identity : PlaybackIdentity)
  | other (op : StoreOp)
deriving DecidableEq, Repr

/-- The store operations of playback, and its opening. -/
def isPlaybackOp : StoreOp → Bool
  | .acquireSummaryPlayback .. => true
  | .cancelSummaryPlayback _ => true
  | .finishSummaryPlayback _ => true
  | .restart _ => true
  | _ => false

/-- `BTreeMap::insert`. -/
def insertKey {α : Type} (key : Nat) (value : α) (m : List (Nat × α)) : List (Nat × α) :=
  (m.filter fun e => decide (e.1 < key)) ++ (key, value) :: m.filter fun e => decide (key < e.1)

/-- `BTreeMap::remove`. -/
def removeKey {α : Type} (key : Nat) (m : List (Nat × α)) : List (Nat × α) :=
  m.filter fun e => decide (e.1 ≠ key)

/-- The identity of a lease (health.rs:574). -/
def identityOf (lease : PlaybackLease) : PlaybackIdentity :=
  { slot := lease.slot, requestGeneration := lease.requestGeneration,
    connectionGeneration := lease.connectionGeneration
    summaryGeneration := lease.summaryGeneration, lease := lease.lease }

/-- Whether a playback is the one that was asked for (health.rs:505). -/
def ActiveHostPlayback.answers (playback : ActiveHostPlayback) (request : PlaybackRequest) : Bool :=
  decide (playback.identity.slot = request.slot ∧
    playback.identity.requestGeneration = request.requestGeneration ∧
    playback.identity.connectionGeneration = request.connectionGeneration)

/-- What the loop over the lease ids comes to. -/
inductive Acquired where
  | granted (lease : PlaybackLease)
  | noUnread
  | failed
deriving DecidableEq, Repr

namespace HostDaemon

/-- A command to the LAN thread. -/
def sendCommand (d : HostDaemon) (connected : Bool) (command : LanPlaybackCommand) : Bool × HostDaemon :=
  if connected then (true, { d with commands := d.commands ++ [command] }) else (false, d)

/-- `store.cancel_summary_playback`. -/
def cancelLease (env : Crates) (d : HostDaemon) (lease : PlaybackLease) : Bool × HostDaemon :=
  let cancelled := transact (cancelSummaryPlayback env d.store lease) d.store
  (cancelled.1.isOk, { d with
    store := cancelled.2, failures := if cancelled.1.isOk then d.failures else d.failures + 1 })

/-- Every other playback gives way (health.rs:515); `false` when the store fails. -/
def supersede (env : Crates) (connected : Bool) :
    List (Nat × ActiveHostPlayback) → HostDaemon → Bool × HostDaemon
  | [], d => (true, d)
  | (leaseId, playback) :: rest, d =>
    let d := (d.sendCommand connected (.cancel playback.identity)).2
    if playback.heardCommitted then
      supersede env connected rest { d with active := removeKey leaseId d.active }
    else
      let cancelled := d.cancelLease env playback.lease
      if !cancelled.1 then (false, cancelled.2)
      else supersede env connected rest { cancelled.2 with active := removeKey leaseId cancelled.2.active }

/-- A lease under one of the ids drawn (health.rs:537). A constraint violation, an id in use, draws
again. -/
def acquireLease (request : PlaybackRequest) : List Nat → HostDaemon → Acquired × HostDaemon
  | [], d => (.failed, d)
  | leaseId :: draws, d =>
    if leaseId = 0 then acquireLease request draws d
    else
      let acquired := transact (acquireSummaryPlayback d.store request.slot request.requestGeneration
        request.connectionGeneration leaseId) d.store
      match acquired.1 with
      | .ok (some lease) => (.granted lease, { d with store := acquired.2 })
      | .ok none => (.noUnread, { d with store := acquired.2 })
      | .error .sqlite => acquireLease request draws d
      | .error _ => (.failed, { d with failures := d.failures + 1 })

/-- The start of a leased summary (health.rs:581). -/
def startCommand (lease : PlaybackLease) (request : PlaybackRequest) (source : SocketAddr)
    (loaded : LoadedSummary) :
    LanPlaybackStart :=
  { begin := {
      identity := identityOf lease, totalBytes := loaded.eiad.length, totalSamples := loaded.totalSamples
      chunkBytes := playbackChunkBytes, requestNonce := request.nonce }
    source, eiad := loaded.eiad }

/-- The lease is granted: the summary is loaded and its transfer started, or the lease is given back. -/
def startPlayback (env : Crates) (d : HostDaemon) (lease : PlaybackLease) (request : PlaybackRequest)
    (source : SocketAddr) (connected : Bool) (loaded : Option LoadedSummary) : HostDaemon :=
  match loaded.filter fun loaded => decide (loaded.eiad.length ≤ u32Max) with
  | none => (d.cancelLease env lease).2
  | some loaded =>
    let sent := d.sendCommand connected (.start (startCommand lease request source loaded))
    let playback : ActiveHostPlayback :=
      { lease, identity := identityOf lease, totalSamples := loaded.totalSamples, heardCommitted := false }
    if !sent.1 then (sent.2.cancelLease env lease).2
    else { sent.2 with active := insertKey lease.lease playback sent.2.active }

/-- `begin_lan_playback`. -/
def beginLanPlayback (env : Crates) (d : HostDaemon) (request : PlaybackRequest)
    (source : SocketAddr) (connected : Bool)
    (draws : List Nat) (loaded : Option LoadedSummary) : HostDaemon :=
  if d.active.any fun e => e.2.answers request then d
  else
    let superseded := supersede env connected d.active d
    if !superseded.1 then superseded.2
    else
      let acquired := acquireLease request (draws.take 4) superseded.2
      match acquired.1 with
      | .granted lease => acquired.2.startPlayback env lease request source connected loaded
      | .noUnread => acquired.2
      | .failed => acquired.2

/-- The summary is heard, once (health.rs:448); `false` when nothing more is done. -/
def commitHeard (env : Crates) (d : HostDaemon) (leaseId : Nat) (playback : ActiveHostPlayback) :
    Bool × HostDaemon :=
  if playback.heardCommitted then (true, d)
  else
    let finished := transact (finishSummaryPlayback env d.store playback.lease) d.store
    match finished.1 with
    | .ok true =>
      (true, { d with
        store := finished.2, active := insertKey leaseId { playback with
          heardCommitted := true } d.active })
    | .ok false => (false, { d with store := finished.2 })
    | .error _ => (false, { d with failures := d.failures + 1 })

/-- The cache is cleaned up and the keyboard gets its answer (health.rs:458). -/
def acknowledgeFinished (d : HostDaemon) (identity : PlaybackIdentity)
    (cleaned connected : Bool) : HostDaemon :=
  if !cleaned then d
  else
    let sent := d.sendCommand connected (.finishAck identity)
    if sent.1 then { sent.2 with active := removeKey identity.lease sent.2.active } else sent.2

/-- The LAN thread reports that the keyboard has played a summary. -/
def handleFinished (env : Crates) (d : HostDaemon) (finished : PlaybackFinished)
    (cleaned connected : Bool) : HostDaemon :=
  match d.active.lookup finished.identity.lease with
  | none => d
  | some playback =>
    if playback.identity ≠ finished.identity ∨ playback.totalSamples ≠ finished.playedSamples then d
    else
      let heard := d.commitHeard env finished.identity.lease playback
      if !heard.1 then heard.2 else heard.2.acknowledgeFinished finished.identity cleaned connected

/-- The LAN thread reports that a transfer has ended early. -/
def handleCancelled (env : Crates) (d : HostDaemon) (identity : PlaybackIdentity) : HostDaemon :=
  match d.active.lookup identity.lease with
  | none => d
  | some playback =>
    -- the entry is removed before its identity is compared
    let d := { d with active := removeKey identity.lease d.active }
    if playback.identity ≠ identity ∨ playback.heardCommitted then d else
      (d.cancelLease env playback.lease).2

/-- `handle_lan_playback_event`, or another thread's call on the store. -/
def handlePlaybackEvent (env : Crates) (d : HostDaemon) : DaemonEvent → HostDaemon
  | .request request source connected draws loaded =>
    d.beginLanPlayback env request source connected draws loaded
  | .finished finished cleaned connected => d.handleFinished env finished cleaned connected
  | .cancelled identity => d.handleCancelled env identity
  | .other op => if isPlaybackOp op then d else { d with store := (storeStep env d.store op).2 }

end HostDaemon

/-- The daemon with the store that `StateStore::open` has recovered. -/
def daemonStart (env : Crates) (ops : List StoreOp) : HostDaemon :=
  { store := storeAfter env (ops ++ [.restart .complete]) }

def daemonStep (env : Crates) (d : HostDaemon) (event : DaemonEvent) : Unit × HostDaemon :=
  ((), d.handlePlaybackEvent env event)

def daemonAfter (env : Crates) (ops : List StoreOp) (events : List DaemonEvent) : HostDaemon :=
  after (daemonStep env) (daemonStart env ops) events

end CodexKeyboard.Playback
