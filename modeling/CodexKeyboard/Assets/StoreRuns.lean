import CodexKeyboard.Assets.SoundAssetStore
import Mathlib.Logic.Relation
/-!
# Runs of the store

A run is made of calls of the public methods, in any order and with any arguments, whatever faults
the storage has, of losses of power in the middle of a call, and of restarts. What the store keeps
in memory is lost with the power: a new store goes on from the flash.
-/

namespace CodexKeyboard.Assets.SoundAssetStore

open Lib Buffer Storage

/-- The calls of a client. -/
inductive StoreOperation where
  | scan
  | beginOrResume (plan : SoundBundlePlan)
  | resume (transaction : TransactionId)
  | queryTransactionOutcome (transaction : TransactionId)
  | queryCurrentActive
  | discardInvalidStaging (plan : SoundBundlePlan)
  | writeManifest (manifest : List UInt8)
  | writePayloadBlock (blockIndex : Nat) (data : List UInt8)
  | commit
  | abort
  | acquireActiveRead
  | releaseRead (lease : SoundReadLease)

/-- The call, without what it returns beside its result. -/
def StoreOperation.method (H : Hashes) : StoreOperation → StoreMethod Unit
  | .scan => SoundAssetStore.scan H
  | .beginOrResume plan => (fun _ => ()) <$> beginOrResumeUpdate H plan
  | .resume transaction => (fun _ => ()) <$> resumeUpdate H transaction
  | .queryTransactionOutcome transaction =>
    (fun _ => ()) <$> SoundAssetStore.queryTransactionOutcome H transaction
  | .queryCurrentActive => (fun _ => ()) <$> SoundAssetStore.queryCurrentActive H
  | .discardInvalidStaging plan => SoundAssetStore.discardInvalidStaging H plan
  | .writeManifest manifest => SoundAssetStore.writeManifest H manifest
  | .writePayloadBlock blockIndex data => SoundAssetStore.writePayloadBlock H blockIndex data
  | .commit => commitUpdate H
  | .abort => abortUpdate H
  | .acquireActiveRead => (fun _ => ()) <$> SoundAssetStore.acquireActiveRead H
  | .releaseRead lease => SoundAssetStore.releaseRead lease

section Runs
variable {H : Hashes} {evident : Flash → Flash → Prop}

/-- What happens to a store and its flash. -/
inductive StoreStep (H : Hashes) (evident : Flash → Flash → Prop) :
    SoundAssetStore × Flash → SoundAssetStore × Flash → Prop where
  | returns {op : StoreOperation} {calls : List StorageCall} {st st' : SoundAssetStore}
    {s s' : Flash} {r : Except SoundStoreResult Unit}
      (h : Exec (soundFlash evident) ((op.method H).run.run st) s calls (some (r, st')) s') :
        StoreStep H evident (st, s) (st', s')
  | powerLoss {op : StoreOperation} {calls : List StorageCall} {st : SoundAssetStore} {s s' : Flash}
      (h : Exec (soundFlash evident) ((op.method H).run.run st) s calls none s') :
        StoreStep H evident (st, s) ({}, s')
  | restart {st : SoundAssetStore} {s : Flash} : StoreStep H evident (st, s) ({}, s)

abbrev Reaches (H : Hashes) (evident : Flash → Flash → Prop) :
    SoundAssetStore × Flash → SoundAssetStore × Flash → Prop :=
  Relation.ReflTransGen (StoreStep H evident)

/-- What every call keeps, and a new store has, holds in every state of a run. -/
theorem Reaches.invariant {G : StorageCall → Prop} {I : SoundAssetStore → Flash → Prop} {K : Flash → Prop}
    (hcall : ∀ (op : StoreOperation) st s, I st s →
      Meets (soundFlash evident) G (op.method H) (fun _ => I) K st s)
    (hloss : ∀ s, K s → I {} s) (hrestart : ∀ st s, I st s → I {} s) {x y : SoundAssetStore × Flash}
    (h : Reaches H evident x y)
    (hx : I x.1 x.2) : I y.1 y.2 := by
  induction h with
  | refl => exact hx
  | tail _ hstep ih =>
    cases hstep with
    | returns hexec => exact ((hcall _ _ _ ih).sound hexec).2
    | powerLoss hexec => exact hloss _ ((hcall _ _ _ ih).sound hexec).2
    | restart => exact hrestart _ _ ih

end Runs

end CodexKeyboard.Assets.SoundAssetStore
