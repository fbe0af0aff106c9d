import Etzio.CommandRequests
import Etzio.VaultOwnership

/-!
# Reads of the evidence vault

`resolve_evidence_artifacts` answers a batch of identities : those the vault retains from
the vault, the others from the staging store. Before it answers it replays the missions of
the origin events, with their manifests, and keeps the bytes it rehashed on the way
(`loadMissionsWithSharedEvidenceValidation`). `load_event_artifacts` answers a batch of
roles the same way.

The replay can refuse, so that a read returns something is a theorem about the states a
store reaches, not about any tables : `vault_ownership` is the ownership of the vault, with
what it gives the reads.
-/

open CheckedRun Rows

namespace Etzio

/-! ## Requests -/

/-- `MAX_VAULT_BATCH_REQUESTS_V1`. -/
def maxVaultBatchRequestsV1 : ℕ := maxEventArtifactRolesV1

/-- `DEFAULT_MAX_VAULT_BYTES_V1`. -/
def defaultMaxVaultBytesV1 : ℕ := 1024 * 1024 * 1024

namespace VaultArtifactResolutionRequestV1

/-- `identity_key`. -/
def identityKey (r : VaultArtifactResolutionRequestV1) : VaultIdentity := ⟨r.role.scheme, r.digest⟩

/-- `effective_maximum`. -/
def effectiveMaximum (r : VaultArtifactResolutionRequestV1) : ℕ :=
  min r.maximum (if r.role = .authorityEvidence then maxAuthorityEvidenceBytesV1
    else maxVaultArtifactBytesV1)

end VaultArtifactResolutionRequestV1

/-- A store error, or an `EvidenceVaultRequestError` with its index and reason code. -/
inductive VaultResolutionError
  | store (e : StoreError)
  | request (index : ℕ) (reasonCode message : String)
  deriving DecidableEq

/-- An entry of `unique_requests` : an identity with the request that has its least maximum. -/
structure UniqueRequest where
  identity : VaultIdentity
  index : ℕ
  maximum : ℕ

/-- One request joins `unique_requests`, where its identity keeps its place. -/
def joinRequest (unique : List UniqueRequest) (x : VaultArtifactResolutionRequestV1 × ℕ) :
    List UniqueRequest :=
  let entry : UniqueRequest := ⟨x.1.identityKey, x.2, x.1.effectiveMaximum⟩
  match findBy UniqueRequest.identity x.1.identityKey unique with
  | none => unique ++ [entry]
  | some prior =>
    if x.1.effectiveMaximum < prior.maximum then
      unique.map fun u => if u.identity = x.1.identityKey then entry else u
    else unique

/-- `unique_requests`. -/
def uniqueRequests (requests : List VaultArtifactResolutionRequestV1) : List UniqueRequest :=
  requests.zipIdx.foldl joinRequest []

/-! ## Shared validation -/

/-- `artifact_cache`, by identity and size. -/
abbrev ArtifactCache : Type := List ((VaultIdentity × ℕ) × List UInt8)

section Reads

variable (W : VaultEnv) (t : Tables EvidenceVault W.Qualified)

/-- A verified artifact that was asked for is kept when it is first rehashed. -/
def cacheArtifact (keys : List (VaultIdentity × ℕ)) (cache : ArtifactCache)
    (r : ArtifactRoleRow) : Except StoreError ArtifactCache := do
  if (r.identity, r.byteSize) ∉ keys ∨ ∃ x ∈ cache, x.1 = (r.identity, r.byteSize) then
    return cache
  else
    let data ← readVaultIdentity W.digestBytesV1
      (corruption "retained event artifact is absent from the canonical vault") t.vault r.identity
      (some r.byteSize)
    return cache ++ [((r.identity, r.byteSize), data)]

/-- `_verify_event_manifest_locked` with a cache. -/
def collectEvent (keys : List (VaultIdentity × ℕ)) (cache : ArtifactCache) (e : EventV1) :
    Except StoreError ArtifactCache := do
  verifyEventManifest W.digestBytesV1 t.vault e
  (t.vault.rolesOf e.eventDigest).foldlM (cacheArtifact W t keys) cache

/-- The replay of one origin mission. -/
def collectMission (keys : List (VaultIdentity × ℕ)) (cache : ArtifactCache) (m : Digest) :
    Except StoreError ArtifactCache := do
  let events ← decodeStream W.env t m
  refuseIf (events = []) (corruption "vault origin mission has no retained event stream")
  validateRetainedLifecycle W.env events
  events.foldlM (collectEvent W t keys) cache

/-- `_load_missions_with_shared_evidence_validation` of sorted distinct missions. -/
def loadMissionsWithSharedEvidenceValidation (missions : List Digest)
    (keys : List (VaultIdentity × ℕ)) : Except StoreError ArtifactCache := do
  let cache ← missions.foldlM (collectMission W t keys) []
  refuseIf t.vault.Orphaned
    (corruption "canonical vault contains an orphan artifact BLOB")
  return cache

/-! ## Resolution of identities -/

/-- An entry of `canonical`. -/
structure CanonicalArtifact where
  identity : VaultIdentity
  byteSize : ℕ
  missionId : Digest

/-- The missions of the origin event, one for each of its roles for the artifact. -/
def originMissions (a : VaultArtifactRow) : List Digest :=
  (t.vault.roles.filter fun r => r.identity = a.identity ∧
      r.byteSize = a.byteSize ∧ r.eventDigest = a.originEventDigest).flatMap fun r =>
    (t.events.filter fun e => e.digest = r.eventDigest).map EventRow.missionId

/-- The origin of a retained identity. -/
def canonicalArtifact (a : VaultArtifactRow) : Except StoreError CanonicalArtifact := do
  let m ← orRefuse (originMissions W t a).head?
    (corruption "canonical vault origin does not own the retained identity")
  refuseIf (∃ x ∈ originMissions W t a, x ≠ m)
    (corruption "canonical vault origin does not own the retained identity")
  return ⟨a.identity, a.byteSize, m⟩

/-- The identities of a batch : retained ones with their origins, and absent ones. -/
structure Selection where
  canonical : List CanonicalArtifact
  absent : List UniqueRequest

/-- One identity of the batch. -/
def selectRequest (s : Selection) (u : UniqueRequest) : Except VaultResolutionError Selection := do
  match ← (artifactRow t.vault u.identity).mapError VaultResolutionError.store with
  | none => return { s with absent := s.absent ++ [u] }
  | some a => do
    refuseIf (u.maximum < a.byteSize) (VaultResolutionError.request u.index "artifact_limit"
      ("evidence request " ++ toString u.index ++ " exceeds its configured limit"))
    let c ← (canonicalArtifact W t a).mapError VaultResolutionError.store
    return { s with canonical := s.canonical ++ [c] }

/-- `resolved_by_identity` after the retained identities. -/
def readCanonical (canonical : List CanonicalArtifact) :
    Except StoreError (List (VaultIdentity × List UInt8)) :=
  if canonical.isEmpty then .ok []
  else do
    let cache ← loadMissionsWithSharedEvidenceValidation W t
      (orderBy BitVec.toNat (canonical.map CanonicalArtifact.missionId).dedup)
      (canonical.map fun c => (c.identity, c.byteSize))
    canonical.mapM fun c => do
      let x ← orRefuse (findBy Prod.fst (c.identity, c.byteSize) cache) (corruption
        "canonical vault origin manifest did not validate the requested identity")
      return (c.identity, x.2)

/-- `resolved_by_identity` with `selected_bytes`. -/
structure Resolution where
  resolved : List (VaultIdentity × List UInt8)
  selectedBytes : ℕ

/-- One absent identity is read from the staging store. -/
def readAbsent (staging : StagingStore) (maximumTotal : ℕ) (s : Resolution) (u : UniqueRequest) :
    Except VaultResolutionError Resolution := do
  let data ← (staging u.identity (min u.maximum (maximumTotal - s.selectedBytes))).mapError
    fun m => VaultResolutionError.request u.index
      (if "exceeds configured limit".toList <:+: m.toList then "artifact_limit"
        else "artifact_unavailable")
      ("evidence request " ++ toString u.index ++
        " is absent from the vault and staging CAS: " ++ m)
  return ⟨s.resolved ++ [(u.identity, data)], s.selectedBytes + data.length⟩

/-- `resolve_evidence_artifacts`. Every requested identity was resolved when the answers are
read off. -/
def resolveEvidenceArtifacts (requests : List VaultArtifactResolutionRequestV1)
    (staging : StagingStore) (maximumTotal : ℕ) :
    Except VaultResolutionError (List (List UInt8)) := do
  refuseIf (requests.isEmpty ∨ maxVaultBatchRequestsV1 < requests.length)
    (.store (storeError "evidence resolution requires one bounded tuple of exact vault requests"))
  refuseIf (defaultMaxVaultBytesV1 < maximumTotal)
    (.store (storeError "evidence batch maximum_total is outside the fixed vault bound"))
  let s ← (uniqueRequests requests).foldlM (selectRequest W t) ⟨[], []⟩
  let selectedBytes := (s.canonical.map CanonicalArtifact.byteSize).sum
  refuseIf (maximumTotal < selectedBytes) (.request 0 "batch_limit"
    "canonical evidence batch exceeds its aggregate byte ceiling")
  let retained ← (readCanonical W t s.canonical).mapError VaultResolutionError.store
  let r ← s.absent.foldlM (readAbsent staging maximumTotal) ⟨retained, selectedBytes⟩
  return requests.map fun x => (findBy Prod.fst x.identityKey r.resolved).elim [] Prod.snd

/-! ## Loading of roles -/

/-- The role a selector names. -/
def selectRole (x : VaultEventArtifactSelectorV1) : Except StoreError (VaultIdentity × ℕ) := do
  let r ← orRefuse (t.vault.roles.find? fun r => r.eventDigest = x.eventDigest ∧
      r.role = x.role ∧ r.ordinal = x.ordinal)
    (storeError "event artifact role is not retained")
  refuseIf (r.identity.scheme ≠ x.role.scheme ∨ maxVaultArtifactBytesV1 < r.byteSize)
    (corruption "retained event artifact differs from its code-owned selector")
  return (r.identity, r.byteSize)

/-- The mission of the event a selector names. -/
def selectOwner (x : VaultEventArtifactSelectorV1) : Except StoreError Digest := do
  let e ← orRefuse (findBy EventRow.digest x.eventDigest t.events)
    (storeError "event artifact owner is not retained")
  return e.missionId

/-- `load_event_artifacts`. -/
def loadEventArtifacts (selectors : List VaultEventArtifactSelectorV1) (maximumTotal : ℕ) :
    Except VaultResolutionError (List (List UInt8)) := do
  refuseIf (selectors.isEmpty ∨ maxVaultBatchRequestsV1 < selectors.length)
    (.store (storeError "event artifact loading requires one bounded tuple of exact selectors"))
  refuseIf (defaultMaxVaultBytesV1 < maximumTotal) (.store
    (storeError "event artifact batch maximum_total is outside the fixed vault bound"))
  let owners ← (selectors.mapM (selectOwner W t)).mapError VaultResolutionError.store
  let keys ← (selectors.mapM (selectRole W t)).mapError VaultResolutionError.store
  refuseIf (maximumTotal < (keys.dedup.map Prod.snd).sum) (.request 0 "batch_limit"
    "event artifact batch exceeds its aggregate byte ceiling")
  let cache ← (loadMissionsWithSharedEvidenceValidation W t
    (orderBy BitVec.toNat owners.dedup) keys).mapError VaultResolutionError.store
  (keys.mapM fun k => do
    let x ← orRefuse (findBy Prod.fst k cache)
      (corruption "retained event artifact was not verified with its owner mission")
    return x.2).mapError VaultResolutionError.store

end Reads

/-! ## The identities of a batch -/

section Unique

variable {requests : List (VaultArtifactResolutionRequestV1 × ℕ)} {unique : List UniqueRequest}

/-- `unique` has one entry for each identity of the requests. -/
structure Joined (requests : List (VaultArtifactResolutionRequestV1 × ℕ))
    (unique : List UniqueRequest) : Prop where
  once : (unique.map UniqueRequest.identity).Nodup
  covers : ∀ x ∈ requests, ∃ u ∈ unique, u.identity = x.1.identityKey
  asked : ∀ u ∈ unique, ∃ x ∈ requests, x.1.identityKey = u.identity ∧
    x.1.effectiveMaximum = u.maximum

theorem Joined.joinRequest (h : Joined requests unique)
    (x : VaultArtifactResolutionRequestV1 × ℕ) :
    Joined (requests ++ [x]) (joinRequest unique x) := by
  have hlast : x ∈ requests ++ [x] := List.mem_append_right _ (List.mem_singleton_self x)
  unfold Etzio.joinRequest
  split
  case h_1 hnone =>
    have hfree := findBy_eq_none.mp hnone
    refine ⟨nodup_map_snoc h.once hfree, fun y hy => ?_, fun u hu => ?_⟩
    · rcases List.mem_append.mp hy with hy | hy
      · obtain ⟨u, hu, hk⟩ := h.covers y hy
        exact ⟨u, List.mem_append_left _ hu, hk⟩
      · rw [List.mem_singleton.mp hy]
        exact ⟨_, List.mem_append_right _ (List.mem_singleton_self _), rfl⟩
    · rcases List.mem_append.mp hu with hu | hu
      · obtain ⟨y, hy, hspec⟩ := h.asked u hu
        exact ⟨y, List.mem_append_left _ hy, hspec⟩
      · rw [List.mem_singleton.mp hu]
        exact ⟨x, hlast, rfl, rfl⟩
  case h_2 prior hprior =>
    have hmem : ∀ y ∈ requests ++ [x], ∃ u ∈ unique, u.identity = y.1.identityKey := by
      intro y hy
      rcases List.mem_append.mp hy with hy | hy
      · exact h.covers y hy
      · rw [List.mem_singleton.mp hy]
        exact ⟨prior, mem_of_findBy hprior, key_of_findBy hprior⟩
    have hasked : ∀ u ∈ unique, ∃ y ∈ requests ++ [x], y.1.identityKey = u.identity ∧
        y.1.effectiveMaximum = u.maximum := by
      intro u hu
      obtain ⟨y, hy, hspec⟩ := h.asked u hu
      exact ⟨y, List.mem_append_left _ hy, hspec⟩
    split_ifs with hless
    · -- The entry takes the place of one with its identity.
      set entry : UniqueRequest := ⟨x.1.identityKey, x.2, x.1.effectiveMaximum⟩
      set replace : UniqueRequest → UniqueRequest := fun u =>
        if u.identity = x.1.identityKey then entry else u
      have hkeep : ∀ u, (replace u).identity = u.identity := by
        intro u
        change (if u.identity = x.1.identityKey then entry else u).identity = u.identity
        split_ifs with hu
        · exact hu.symm
        · rfl
      refine ⟨?_, fun y hy => ?_, fun u hu => ?_⟩
      · have hmap : (unique.map replace).map UniqueRequest.identity =
            unique.map UniqueRequest.identity := by
          rw [List.map_map]
          exact List.map_congr_left fun u _ => hkeep u
        rw [hmap]
        exact h.once
      · obtain ⟨u, hu, hk⟩ := hmem y hy
        exact ⟨replace u, List.mem_map_of_mem hu, (hkeep u).trans hk⟩
      · obtain ⟨u', hu', rfl⟩ := List.mem_map.mp hu
        by_cases hk : u'.identity = x.1.identityKey
        · rw [if_pos hk]
          exact ⟨x, hlast, rfl, rfl⟩
        · rw [if_neg hk]
          exact hasked u' hu'
    · exact ⟨h.once, hmem, hasked⟩

theorem joinRequests_joined (requests : List (VaultArtifactResolutionRequestV1 × ℕ)) :
    Joined requests (requests.foldl joinRequest []) := by
  induction requests using List.reverseRecOn with
  | nil => exact ⟨List.nodup_nil, List.forall_mem_nil _, List.forall_mem_nil _⟩
  | append_singleton l x ih =>
    rw [List.foldl_append]
    exact ih.joinRequest x

theorem uniqueRequests_once (requests : List VaultArtifactResolutionRequestV1) :
    ((uniqueRequests requests).map UniqueRequest.identity).Nodup :=
  (joinRequests_joined _).once

theorem exists_uniqueRequest {requests : List VaultArtifactResolutionRequestV1}
    {r : VaultArtifactResolutionRequestV1} (h : r ∈ requests) :
    ∃ u ∈ uniqueRequests requests, u.identity = r.identityKey := by
  obtain ⟨k, hk, rfl⟩ := List.getElem_of_mem h
  exact (joinRequests_joined _).covers (requests[k], k)
    (List.mk_mem_zipIdx_iff_getElem?.mpr (List.getElem?_eq_getElem hk))

theorem uniqueRequest_asked {requests : List VaultArtifactResolutionRequestV1} {u : UniqueRequest}
    (h : u ∈ uniqueRequests requests) :
    ∃ r ∈ requests, r.identityKey = u.identity ∧ r.effectiveMaximum = u.maximum := by
  obtain ⟨x, hx, hspec⟩ := (joinRequests_joined _).asked u h
  exact ⟨x.1, List.fst_mem_of_mem_zipIdx hx, hspec⟩

/-- The identities of the entries are those of the requests. -/
theorem uniqueRequests_toFinset (requests : List VaultArtifactResolutionRequestV1) :
    ((uniqueRequests requests).map UniqueRequest.identity).toFinset =
      (requests.map VaultArtifactResolutionRequestV1.identityKey).toFinset := by
  ext i
  rw [List.mem_toFinset, List.mem_toFinset, List.mem_map, List.mem_map]
  constructor
  · rintro ⟨u, hu, rfl⟩
    obtain ⟨r, hr, hk, -⟩ := uniqueRequest_asked hu
    exact ⟨r, hr, hk⟩
  · rintro ⟨r, hr, rfl⟩
    obtain ⟨u, hu, hk⟩ := exists_uniqueRequest hr
    exact ⟨u, hu, hk⟩

end Unique

/-! ## Reads of an owned vault -/

/-- The lifecycle check of a retained stream passes. -/
theorem StreamsDecode.retainedLifecycle {E : Env} {t : E.Db} (h : StreamsDecode t) (m : Digest) :
    validateRetainedLifecycle E (t.stream m) = .ok () := by
  unfold validateRetainedLifecycle
  split_ifs with hnil
  · rfl
  · obtain ⟨x, hx⟩ := (h m).2 hnil
    rw [hx]
    rfl

theorem StreamsDecode.verifiedStream {E : Env} {t : E.Db} (h : StreamsDecode t) {m : Digest}
    (hv : E.validateRetainedEvidence t.vault (t.stream m) = .ok ()) :
    verifiedStream E t m = .ok (t.stream m) := by
  unfold Etzio.verifiedStream
  rw [bind_of_ok (h m).1, bind_of_ok (h.retainedLifecycle m), bind_of_ok hv]
  rfl

/-- Tables whose streams decode and whose vault is owned. -/
structure Readable (W : VaultEnv) (t : Tables EvidenceVault W.Qualified) : Prop where
  keys : t.Keys
  streams : StreamsDecode (E := W.env) t
  owned : VaultOwned W.digestBytesV1 t

theorem Sys.Reachable.readable {W : VaultEnv} {s : Sys W.env} (h : s.Reachable) :
    Readable W s.tables :=
  ⟨h.cacheSound.keys, h.streamsDecode, h.vaultOwned⟩

section Owned

variable {W : VaultEnv} {t : Tables EvidenceVault W.Qualified} {keys : List (VaultIdentity × ℕ)}
  {rows : List ArtifactRoleRow} {cache : ArtifactCache} {a : VaultArtifactRow} {m : Digest}
  {e : EventV1}

/-- The artifact of a retained identity. -/
def EvidenceVault.artifactAt (v : EvidenceVault) (i : VaultIdentity) : Option VaultArtifactRow :=
  findBy VaultArtifactRow.identity i v.artifacts

theorem Readable.artifactAt (h : Readable W t) (ha : a ∈ t.vault.artifacts) :
    t.vault.artifactAt a.identity = some a :=
  (findBy_eq_some h.owned.once).mpr ⟨ha, rfl⟩

/-- The replay of retained evidence passes for every mission. -/
theorem Readable.validateRetainedEvidence (h : Readable W t) (m : Digest) :
    validateRetainedEvidence W.digestBytesV1 t.vault (t.stream m) = .ok () := by
  unfold Etzio.validateRetainedEvidence
  rw [unit_bind_eq_ok, forM_eq_ok, refuseIf_eq_ok]
  refine ⟨fun e he => ?_, h.owned.owned⟩
  obtain ⟨r, hr, rfl⟩ := List.mem_map.mp he
  rw [Tables.missionRows, mem_orderBy] at hr
  exact verifyEventManifest_eq_ok.mpr (h.owned.manifest r (List.mem_of_mem_filter hr))

/-- The stream of every mission verifies. -/
theorem Readable.verifiedStream (h : Readable W t) (m : Digest) :
    verifiedStream W.env t m = .ok (t.stream m) := by
  have hevidence := h.validateRetainedEvidence m
  exact h.streams.verifiedStream hevidence

/-! ### The cache -/

/-- The cache holds bytes of retained artifacts, and those asked for among `rows`. -/
structure Caches (t : Tables EvidenceVault W.Qualified) (keys : List (VaultIdentity × ℕ))
    (rows : List ArtifactRoleRow) (cache : ArtifactCache) : Prop where
  sound : ∀ x ∈ cache, ∃ a, t.vault.artifactAt x.1.1 = some a ∧ a.byteSize = x.1.2 ∧
    a.content = x.2
  covers : ∀ r ∈ rows, (r.identity, r.byteSize) ∈ keys →
    ∃ x ∈ cache, x.1 = (r.identity, r.byteSize)

theorem Caches.cacheArtifact (h : Caches t keys rows cache) {r : ArtifactRoleRow}
    (ha : t.vault.artifactAt r.identity = some a) (hsize : a.byteSize = r.byteSize)
    (hsound : a.Sound W.digestBytesV1) :
    ∃ cache', cacheArtifact W t keys cache r = .ok cache' ∧ Caches t keys (rows ++ [r]) cache' := by
  unfold Etzio.cacheArtifact
  split_ifs with hskip
  · refine ⟨cache, rfl, h.sound, fun x hx hk => ?_⟩
    rcases List.mem_append.mp hx with hx | hx
    · exact h.covers x hx hk
    · rw [List.mem_singleton.mp hx] at hk ⊢
      exact hskip.resolve_left (not_not.mpr hk)
  · have hread : readVaultIdentity W.digestBytesV1
        (corruption "retained event artifact is absent from the canonical vault") t.vault r.identity
        (some r.byteSize) = .ok a.content :=
      readVaultIdentity_eq_ok.mpr ⟨a, ha, fun k hk => hsize.trans (Option.some.inj hk), hsound, rfl⟩
    rw [bind_of_ok hread]
    refine ⟨_, rfl, fun x hx => ?_, fun x hx hk => ?_⟩
    · rcases List.mem_append.mp hx with hx | hx
      · exact h.sound x hx
      · rw [List.mem_singleton.mp hx]
        exact ⟨a, ha, hsize, rfl⟩
    · rcases List.mem_append.mp hx with hx | hx
      · obtain ⟨y, hy, hyk⟩ := h.covers x hx hk
        exact ⟨y, List.mem_append_left _ hy, hyk⟩
      · rw [List.mem_singleton.mp hx]
        exact ⟨_, List.mem_append_right _ (List.mem_singleton_self _), rfl⟩

theorem Caches.collectEvent (h : Caches t keys rows cache)
    (hm : t.vault.Manifests W.digestBytesV1 e) :
    ∃ cache', collectEvent W t keys cache e = .ok cache' ∧
      Caches t keys (rows ++ t.vault.rolesOf e.eventDigest) cache' := by
  unfold Etzio.collectEvent
  rw [bind_of_ok (verifyEventManifest_eq_ok.mpr hm)]
  refine foldlM_progress (fun l c => Caches t keys (rows ++ l) c) (by rwa [List.append_nil]) ?_
  intro l c r hr hc
  obtain ⟨a, ha, hsize, hsound⟩ := hm.retained r hr
  rw [← List.append_assoc]
  exact hc.cacheArtifact ha hsize hsound

/-- The roles of a mission's events. -/
def missionRoles (t : Tables EvidenceVault W.Qualified) (m : Digest) : List ArtifactRoleRow :=
  (t.stream m).flatMap fun e => t.vault.rolesOf e.eventDigest

theorem Readable.collectMission (hr : Readable W t) (h : Caches t keys rows cache)
    (hne : t.stream m ≠ []) : ∃ cache', collectMission W t keys cache m = .ok cache' ∧
      Caches t keys (rows ++ missionRoles t m) cache' := by
  obtain ⟨cache', hcache, hspec⟩ := foldlM_progress (f := Etzio.collectEvent W t keys)
    (fun l c => Caches t keys (rows ++ l.flatMap fun e => t.vault.rolesOf e.eventDigest) c)
    (l := t.stream m) (show Caches t keys (rows ++ []) cache by rwa [List.append_nil])
    (fun l c e he hc => by
      obtain ⟨row, hrow, rfl⟩ := List.mem_map.mp he
      rw [Tables.missionRows, mem_orderBy] at hrow
      rw [List.flatMap_append, List.flatMap_singleton, ← List.append_assoc]
      exact hc.collectEvent (hr.owned.manifest row (List.mem_of_mem_filter hrow)))
  refine ⟨cache', ?_, hspec⟩
  unfold Etzio.collectMission
  exact bind_eq_ok.mpr ⟨_, (hr.streams m).1, unit_bind_eq_ok.mpr ⟨refuseIf_eq_ok.mpr hne,
    unit_bind_eq_ok.mpr ⟨hr.streams.retainedLifecycle m, hcache⟩⟩⟩

variable (keys) in
/-- The shared validation succeeds for missions with events, and finds what was asked for
among their roles. -/
theorem Readable.loadMissions (hr : Readable W t) {missions : List Digest}
    (hne : ∀ m ∈ missions, t.stream m ≠ []) :
    ∃ cache, loadMissionsWithSharedEvidenceValidation W t missions keys = .ok cache ∧
      Caches t keys (missions.flatMap (missionRoles t)) cache := by
  obtain ⟨cache, hcache, hspec⟩ := foldlM_progress (f := Etzio.collectMission W t keys)
    (fun l c => Caches t keys (l.flatMap (missionRoles t)) c) (l := missions)
    (show Caches t keys [] [] from ⟨List.forall_mem_nil _, List.forall_mem_nil _⟩)
    (fun l c m hm hc => by
      rw [List.flatMap_append, List.flatMap_singleton]
      exact hr.collectMission hc (hne m hm))
  refine ⟨cache, ?_, hspec⟩
  unfold loadMissionsWithSharedEvidenceValidation
  rw [bind_of_ok hcache, refuseIf_bind_of_not hr.owned.owned]
  rfl

/-- What the cache answers for a key that was asked for and validated. -/
theorem Caches.lookup (h : Caches t keys rows cache) {k : VaultIdentity × ℕ} (hk : k ∈ keys)
    {r : ArtifactRoleRow} (hrow : r ∈ rows) (hrk : (r.identity, r.byteSize) = k) :
    ∃ x a, findBy Prod.fst k cache = some x ∧ t.vault.artifactAt k.1 = some a ∧
      a.byteSize = k.2 ∧ a.content = x.2 := by
  obtain ⟨y, hy, hyk⟩ := h.covers r hrow (hrk ▸ hk)
  have hsome : (findBy Prod.fst k cache).isSome := findBy_isSome.mpr ⟨y, hy, hyk.trans hrk⟩
  obtain ⟨x, hx⟩ := Option.isSome_iff_exists.mp hsome
  obtain ⟨a, ha, hsize, hdata⟩ := h.sound x (mem_of_findBy hx)
  rw [key_of_findBy hx] at ha hsize
  exact ⟨x, a, hx, ha, hsize, hdata⟩

/-! ### Missions -/

theorem Readable.mem_stream (hr : Readable W t) {row : EventRow} (h : row ∈ t.events) :
    row.canonical ∈ t.stream row.missionId ∧ row.digest = row.canonical.eventDigest := by
  refine ⟨List.mem_map_of_mem (mem_orderBy.mpr (List.mem_filter.mpr ⟨h, by simp⟩)), ?_⟩
  exact congrArg EventRow.digest (hr.owned.rows row h)

/-- A role of a retained event is a role of its mission. -/
theorem Readable.mem_missionRoles (hr : Readable W t) {row : EventRow} (h : row ∈ t.events)
    {r : ArtifactRoleRow} (hmem : r ∈ t.vault.roles) (hd : r.eventDigest = row.digest) :
    r ∈ missionRoles t row.missionId ∧ t.stream row.missionId ≠ [] := by
  obtain ⟨hstream, hdigest⟩ := hr.mem_stream h
  exact ⟨List.mem_flatMap.mpr ⟨row.canonical, hstream,
    mem_rolesOf.mpr ⟨hmem, hd.trans hdigest⟩⟩, List.ne_nil_of_mem hstream⟩

/-! ### Origins -/

/-- The mission `m` of the origin event of an artifact validates the artifact. -/
structure OwnedBy (t : Tables EvidenceVault W.Qualified) (a : VaultArtifactRow) (m : Digest) :
    Prop where
  role : ∃ r ∈ missionRoles t m, r.identity = a.identity ∧ r.byteSize = a.byteSize
  events : t.stream m ≠ []

/-- The origin of a retained artifact is found. -/
theorem Readable.canonicalArtifact (hr : Readable W t) (ha : a ∈ t.vault.artifacts) :
    ∃ m, canonicalArtifact W t a = .ok ⟨a.identity, a.byteSize, m⟩ ∧ OwnedBy t a m := by
  have howned := hr.owned.owned
  unfold EvidenceVault.Orphaned at howned
  push Not at howned
  obtain ⟨r, hmem, hid, hsize, hd⟩ := howned a ha
  obtain ⟨row, hrow, hdigest⟩ := (EvidenceVault.foreignKeys_iff.mp hr.owned.foreignKeys).1 a ha
  -- Every role of the origin joins the one row with its digest.
  have hjoin : ∀ x ∈ originMissions W t a, x = row.missionId := by
    intro x hx
    obtain ⟨y, hy, hx⟩ := List.mem_flatMap.mp hx
    obtain ⟨row', hrow', rfl⟩ := List.mem_map.mp hx
    obtain ⟨hmem', hd'⟩ := List.mem_filter.mp hrow'
    have hy := List.of_mem_filter hy
    rw [decide_eq_true_iff] at hd' hy
    rw [List.inj_on_of_nodup_map hr.keys.eventDigest hmem' hrow
      (hd'.trans (hy.2.2.trans hdigest.symm))]
  have hsome : row.missionId ∈ originMissions W t a := by
    refine List.mem_flatMap.mpr ⟨r, List.mem_filter.mpr ⟨hmem, ?_⟩, List.mem_map.mpr
      ⟨row, List.mem_filter.mpr ⟨hrow, ?_⟩, rfl⟩⟩
    · rw [decide_eq_true_iff]
      exact ⟨hid, hsize, hd⟩
    · rw [decide_eq_true_iff]
      exact hdigest.trans hd.symm
  obtain ⟨x, hx⟩ := Option.ne_none_iff_exists'.mp
    (mt List.head?_eq_none_iff.mp (List.ne_nil_of_mem hsome))
  obtain rfl := hjoin x (List.mem_of_mem_head? hx)
  obtain ⟨hroles, hne⟩ := hr.mem_missionRoles hrow hmem (hd.trans hdigest.symm)
  refine ⟨row.missionId, ?_, ⟨r, hroles, hid, hsize⟩, hne⟩
  unfold Etzio.canonicalArtifact
  rw [hx, orRefuse_some_bind, refuseIf_bind_of_not]
  · rfl
  · push Not
    exact hjoin

/-! ### Resolution -/

section Resolve

variable {u : UniqueRequest} {s s' : Selection} {us : List UniqueRequest}

/-- The size of a retained identity. -/
def EvidenceVault.sizeOf (v : EvidenceVault) (i : VaultIdentity) : ℕ :=
  (v.artifactAt i).elim 0 VaultArtifactRow.byteSize

/-- The retained identities of a batch have their origins, and the others are absent. -/
structure Selected (t : Tables EvidenceVault W.Qualified) (us : List UniqueRequest)
    (s : Selection) : Prop where
  canonical : ∀ c ∈ s.canonical, ∃ a, t.vault.artifactAt c.identity = some a ∧
    a.byteSize = c.byteSize ∧ OwnedBy t a c.missionId
  found : ∀ u ∈ us, ∀ a, t.vault.artifactAt u.identity = some a →
    ∃ c ∈ s.canonical, c.identity = u.identity
  absent : ∀ u ∈ s.absent, u ∈ us ∧ t.vault.artifactAt u.identity = none
  size : (s.canonical.map CanonicalArtifact.byteSize).sum =
    (us.map fun u => t.vault.sizeOf u.identity).sum

theorem Readable.selectRequest_absent (hnone : t.vault.artifactAt u.identity = none) :
    selectRequest W t s u = .ok { s with absent := s.absent ++ [u] } := by
  have hrow : (artifactRow t.vault u.identity).mapError VaultResolutionError.store = .ok none := by
    rw [mapError_eq_ok, artifactRow_eq_ok]
    exact ⟨hnone, by simp⟩
  unfold selectRequest
  rw [bind_of_ok hrow]
  rfl

/-- A retained identity is refused for its size, or selected with its origin. -/
theorem Readable.selectRequest_retained (hr : Readable W t)
    (ha : t.vault.artifactAt u.identity = some a) : ∃ m, OwnedBy t a m ∧
      selectRequest W t s u = if u.maximum < a.byteSize then
        .error (.request u.index "artifact_limit"
          ("evidence request " ++ toString u.index ++ " exceeds its configured limit"))
      else .ok { s with canonical := s.canonical ++ [⟨a.identity, a.byteSize, m⟩] } := by
  have hmem := mem_of_findBy ha
  obtain ⟨m, hm, howned⟩ := hr.canonicalArtifact hmem
  have hrow : (artifactRow t.vault u.identity).mapError VaultResolutionError.store =
      .ok (some a) := by
    rw [mapError_eq_ok, artifactRow_eq_ok]
    exact ⟨ha, fun b hb => Option.some.inj hb ▸ (hr.owned.sound a hmem).bound⟩
  refine ⟨m, howned, ?_⟩
  unfold selectRequest
  rw [bind_of_ok hrow]
  change (refuseIf (u.maximum < a.byteSize) _ >>= fun _ => _) = _
  split_ifs with hlimit
  · rw [refuseIf_bind_of hlimit]
  · rw [refuseIf_bind_of_not hlimit, bind_of_ok (mapError_eq_ok.mpr hm)]
    rfl

/-- An identity that was selected. -/
theorem Readable.selected (hr : Readable W t) (hs : Selected t us s)
    (h : selectRequest W t s u = .ok s') : Selected t (us ++ [u]) s' := by
  cases ha : t.vault.artifactAt u.identity with
  | none =>
    rw [Readable.selectRequest_absent ha] at h
    obtain rfl := Except.ok.inj h
    refine ⟨hs.canonical, fun v hv b hb => ?_, fun v hv => ?_, ?_⟩
    · rcases List.mem_append.mp hv with hv | hv
      · exact hs.found v hv b hb
      · rw [List.mem_singleton.mp hv, ha] at hb
        cases hb
    · rcases List.mem_append.mp hv with hv | hv
      · obtain ⟨hmem, hnone⟩ := hs.absent v hv
        exact ⟨List.mem_append_left _ hmem, hnone⟩
      · rw [List.mem_singleton.mp hv]
        exact ⟨List.mem_append_right _ (List.mem_singleton_self u), ha⟩
    · rw [List.map_append, List.sum_append, hs.size]
      simp [EvidenceVault.sizeOf, ha]
  | some a =>
    obtain ⟨m, howned, heq⟩ := hr.selectRequest_retained (s := s) ha
    rw [heq] at h
    split_ifs at h with hlimit
    obtain rfl := Except.ok.inj h
    have hkey : a.identity = u.identity := key_of_findBy ha
    refine ⟨fun c hc => ?_, fun v hv b hb => ?_, fun v hv => ?_, ?_⟩
    · rcases List.mem_append.mp hc with hc | hc
      · exact hs.canonical c hc
      · rw [List.mem_singleton.mp hc]
        exact ⟨a, hkey ▸ ha, rfl, howned⟩
    · rcases List.mem_append.mp hv with hv | hv
      · obtain ⟨c, hc, hcv⟩ := hs.found v hv b hb
        exact ⟨c, List.mem_append_left _ hc, hcv⟩
      · rw [List.mem_singleton.mp hv]
        exact ⟨_, List.mem_append_right _ (List.mem_singleton_self _), hkey⟩
    · obtain ⟨hmem, hnone⟩ := hs.absent v hv
      exact ⟨List.mem_append_left _ hmem, hnone⟩
    · rw [List.map_append, List.sum_append, List.map_append, List.sum_append, hs.size]
      simp [EvidenceVault.sizeOf, ha]

theorem Readable.selectRequests (hr : Readable W t)
    (h : us.foldlM (selectRequest W t) ⟨[], []⟩ = .ok s) : Selected t us s := by
  refine foldlM_invariant (fun l s => Selected t l s) ?_
    (fun _ _ _ _ _ hs hx => hr.selected hs hx) h
  exact ⟨List.forall_mem_nil _, List.forall_mem_nil _, List.forall_mem_nil _, rfl⟩

/-- The bytes of the retained identities of a batch. -/
theorem Readable.readCanonical (hr : Readable W t) (hs : Selected t us s) :
    ∃ retained, readCanonical W t s.canonical = .ok retained ∧
      List.Forall₂ (fun c x => x.1 = c.identity ∧
        ∃ a, t.vault.artifactAt c.identity = some a ∧ a.content = x.2) s.canonical retained := by
  unfold Etzio.readCanonical
  split_ifs with hnil
  · rw [List.isEmpty_iff] at hnil
    exact ⟨[], rfl, hnil ▸ .nil⟩
  have hmissions : ∀ m, m ∈ orderBy BitVec.toNat
      (s.canonical.map CanonicalArtifact.missionId).dedup ↔
        ∃ c ∈ s.canonical, c.missionId = m := by
    intro m
    rw [mem_orderBy, List.mem_dedup, List.mem_map]
  obtain ⟨cache, hcache, hspec⟩ := hr.loadMissions
    (s.canonical.map fun c => (c.identity, c.byteSize)) (fun m hm => by
      obtain ⟨c, hc, rfl⟩ := (hmissions m).mp hm
      obtain ⟨a, -, -, howned⟩ := hs.canonical c hc
      exact howned.events)
  obtain ⟨retained, hretained, hall⟩ := mapM_progress (l := s.canonical)
    (f := fun c => (do
      let x ← orRefuse (findBy Prod.fst (c.identity, c.byteSize) cache) (corruption
        "canonical vault origin manifest did not validate the requested identity")
      return (c.identity, x.2) : Except StoreError (VaultIdentity × List UInt8)))
    (P := fun c x => x.1 = c.identity ∧
      ∃ a, t.vault.artifactAt c.identity = some a ∧ a.content = x.2) (fun c hc => by
      obtain ⟨a, ha, hsize, howned⟩ := hs.canonical c hc
      obtain ⟨r, hrow, hid, hrsize⟩ := howned.role
      have hkey : a.identity = c.identity := key_of_findBy ha
      obtain ⟨x, b, hx, hb, -, hdata⟩ := hspec.lookup
        (k := (c.identity, c.byteSize)) (List.mem_map_of_mem hc)
        (List.mem_flatMap.mpr ⟨c.missionId, (hmissions _).mpr ⟨c, hc, rfl⟩, hrow⟩)
        (by rw [hid, hkey, hrsize, hsize])
      exact ⟨(c.identity, x.2), orRefuse_bind_eq_ok.mpr ⟨x, hx, rfl⟩, rfl, b, hb, hdata⟩)
  exact ⟨retained, bind_eq_ok.mpr ⟨cache, hcache, hretained⟩, hall⟩

/-- The absent identities are answered after the retained ones. -/
theorem readAbsents_resolved {staging : StagingStore} {total : ℕ} {r r' : Resolution}
    (h : us.foldlM (readAbsent staging total) r = .ok r') :
    ∃ extra, r'.resolved = r.resolved ++ extra := by
  refine foldlM_invariant (fun _ x => ∃ extra, x.resolved = r.resolved ++ extra)
    ⟨[], (List.append_nil _).symm⟩ ?_ h
  rintro l x u x' - ⟨extra, hx⟩ hstep
  unfold readAbsent at hstep
  obtain ⟨data, -, hstep⟩ := bind_eq_ok.mp hstep
  rw [← Except.ok.inj hstep]
  exact ⟨extra ++ [(u.identity, data)], by rw [← List.append_assoc, ← hx]⟩

variable {requests : List VaultArtifactResolutionRequestV1} {staging : StagingStore} {total : ℕ}
  {answers : List (List UInt8)}

/-- A retained identity is answered with the bytes of the vault. -/
theorem Readable.resolved (hr : Readable W t)
    (h : resolveEvidenceArtifacts W t requests staging total = .ok answers) :
    answers.length = requests.length ∧ ∀ (k : ℕ) (r : VaultArtifactResolutionRequestV1)
      (a : VaultArtifactRow), requests[k]? = some r →
      t.vault.artifactAt r.identityKey = some a → answers[k]? = some a.content := by
  unfold resolveEvidenceArtifacts at h
  obtain ⟨-, h⟩ := unit_bind_eq_ok.mp h
  obtain ⟨-, h⟩ := unit_bind_eq_ok.mp h
  obtain ⟨s, hs, h⟩ := bind_eq_ok.mp h
  obtain ⟨-, h⟩ := unit_bind_eq_ok.mp h
  obtain ⟨retained, hretained, h⟩ := bind_eq_ok.mp h
  obtain ⟨x, hx, h⟩ := bind_eq_ok.mp h
  obtain rfl := Except.ok.inj h
  rw [mapError_eq_ok] at hretained
  have hsel := hr.selectRequests hs
  obtain ⟨retained', heq, hall⟩ := hr.readCanonical hsel
  obtain rfl := Except.ok.inj (hretained.symm.trans heq)
  obtain ⟨extra, hextra⟩ := readAbsents_resolved hx
  refine ⟨List.length_map _, fun k r a hk ha => ?_⟩
  rw [List.getElem?_map, hk, Option.map_some]
  obtain ⟨u, hu, hukey⟩ := exists_uniqueRequest (List.mem_of_getElem? hk)
  obtain ⟨c, hc, hcu⟩ := hsel.found u hu a (hukey ▸ ha)
  have hkey : ∃ y ∈ retained, y.1 = r.identityKey := by
    obtain ⟨y, hy, hyc, -⟩ := exists_related_of_mem hall hc
    exact ⟨y, hy, hyc.trans (hcu.trans hukey)⟩
  have hsome : (findBy Prod.fst r.identityKey retained).isSome := findBy_isSome.mpr hkey
  obtain ⟨y, hy⟩ := Option.isSome_iff_exists.mp hsome
  obtain ⟨c', -, hyc, b, hb, hdata⟩ := exists_related_of_mem hall.flip (mem_of_findBy hy)
  rw [← hyc, key_of_findBy hy, ha] at hb
  rw [hextra, findBy_append_of_isSome hsome, hy, Option.elim_some, ← hdata, Option.some.inj hb]

/-- A batch of retained identities within its limits is answered, whatever the staging store
contains. -/
theorem Readable.complete (hr : Readable W t) (hne : requests ≠ [])
    (hlen : requests.length ≤ maxVaultBatchRequestsV1) (htotal : total ≤ defaultMaxVaultBytesV1)
    (hretained : ∀ r ∈ requests, ∃ a, t.vault.artifactAt r.identityKey = some a ∧
      a.byteSize ≤ r.effectiveMaximum)
    (hsum : ∑ i ∈ (requests.map VaultArtifactResolutionRequestV1.identityKey).toFinset,
      t.vault.sizeOf i ≤ total) :
    ∃ answers, resolveEvidenceArtifacts W t requests staging total = .ok answers := by
  have hunique : ∀ u ∈ uniqueRequests requests, ∃ a, t.vault.artifactAt u.identity = some a ∧
      a.byteSize ≤ u.maximum := by
    intro u hu
    obtain ⟨r, hmem, hkey, hmax⟩ := uniqueRequest_asked hu
    rw [← hkey, ← hmax]
    exact hretained r hmem
  obtain ⟨s, hs, hsel⟩ := foldlM_progress (f := selectRequest W t)
    (fun l s => Selected t l s) (l := uniqueRequests requests)
    (show Selected t [] ⟨[], []⟩ from
      ⟨List.forall_mem_nil _, List.forall_mem_nil _, List.forall_mem_nil _, rfl⟩)
    (fun l s u hu hs => by
      obtain ⟨a, ha, hsize⟩ := hunique u hu
      obtain ⟨m, -, heq⟩ := hr.selectRequest_retained (s := s) ha
      rw [if_neg (Nat.not_lt.mpr hsize)] at heq
      exact ⟨_, heq, hr.selected hs heq⟩)
  have habsent : s.absent = [] := by
    refine List.eq_nil_iff_forall_not_mem.mpr fun u hu => ?_
    obtain ⟨hmem, hnone⟩ := hsel.absent u hu
    obtain ⟨a, ha, -⟩ := hunique u hmem
    rw [hnone] at ha
    cases ha
  have hsize : (s.canonical.map CanonicalArtifact.byteSize).sum ≤ total := by
    rw [hsel.size]
    rw [← uniqueRequests_toFinset, List.sum_toFinset _ (uniqueRequests_once requests),
      List.map_map] at hsum
    exact hsum
  obtain ⟨retained, hread, -⟩ := hr.readCanonical hsel
  unfold resolveEvidenceArtifacts
  rw [refuseIf_bind_of_not (by simpa using ⟨hne, hlen⟩),
    refuseIf_bind_of_not (Nat.not_lt.mpr htotal),
    bind_of_ok hs, refuseIf_bind_of_not (Nat.not_lt.mpr hsize),
    bind_of_ok (mapError_eq_ok.mpr hread), habsent]
  exact ⟨_, rfl⟩

/-- An error that does not report corruption. -/
def VaultResolutionError.Uncorrupted (e : VaultResolutionError) : Prop :=
  ∀ m, e ≠ .store (corruption m)

theorem VaultResolutionError.uncorrupted_request (index : ℕ) (code m : String) :
    (VaultResolutionError.request index code m).Uncorrupted := by
  rintro m ⟨⟩

theorem VaultResolutionError.uncorrupted_store (m : String) :
    (VaultResolutionError.store (storeError m)).Uncorrupted := by
  rintro m' h
  simp [storeError, corruption] at h

/-- A read of an owned vault never reports corruption. -/
theorem Readable.resolve_uncorrupted (hr : Readable W t) :
    FailsWith VaultResolutionError.Uncorrupted
      (resolveEvidenceArtifacts W t requests staging total) := by
  unfold resolveEvidenceArtifacts
  refine .bind (.refuseIf (VaultResolutionError.uncorrupted_store _)) fun _ _ =>
    .bind (.refuseIf (VaultResolutionError.uncorrupted_store _)) fun _ _ =>
    .bind (.foldlM fun s u => ?_) fun s hs =>
    .bind (.refuseIf (VaultResolutionError.uncorrupted_request _ _ _)) fun _ _ =>
    .bind ?_ fun retained _ => .bind (.foldlM fun x u => ?_) fun _ _ => .ok
  · cases ha : t.vault.artifactAt u.identity with
    | none =>
      rw [Readable.selectRequest_absent ha]
      exact .ok
    | some a =>
      obtain ⟨m, -, heq⟩ := hr.selectRequest_retained (s := s) ha
      rw [heq]
      split_ifs
      · exact .error (VaultResolutionError.uncorrupted_request _ _ _)
      · exact .ok
  · obtain ⟨out, hout, -⟩ := hr.readCanonical (hr.selectRequests hs)
    rw [hout]
    exact .ok
  · unfold readAbsent
    exact .bind (.mapError fun m => VaultResolutionError.uncorrupted_request _ _ _) fun _ _ => .ok

end Resolve

/-! ### Loading -/

section Load

variable {selectors : List VaultEventArtifactSelectorV1} {total : ℕ}
  {answers : List (List UInt8)} {x : VaultEventArtifactSelectorV1}

/-- The role rows a selector names. -/
def VaultEventArtifactSelectorV1.Names (x : VaultEventArtifactSelectorV1) (r : ArtifactRoleRow) :
    Prop :=
  r.eventDigest = x.eventDigest ∧ r.role = x.role ∧ r.ordinal = x.ordinal

instance (x : VaultEventArtifactSelectorV1) : DecidablePred x.Names :=
  fun _ => inferInstanceAs (Decidable (_ ∧ _))

/-- The selected role is retained, with its artifact. -/
structure RoleSelected (t : Tables EvidenceVault W.Qualified) (x : VaultEventArtifactSelectorV1)
    (k : VaultIdentity × ℕ) (r : ArtifactRoleRow) (a : VaultArtifactRow) : Prop where
  mem : r ∈ t.vault.roles
  named : x.Names r
  key : (r.identity, r.byteSize) = k
  artifact : t.vault.artifactAt r.identity = some a
  size : a.byteSize = r.byteSize
  sound : a.Sound W.digestBytesV1

theorem Readable.roleSelected (hr : Readable W t) {r : ArtifactRoleRow} (hmem : r ∈ t.vault.roles)
    (hnamed : x.Names r) : ∃ a, RoleSelected t x (r.identity, r.byteSize) r a := by
  obtain ⟨a, ha, hid, hsize⟩ := (EvidenceVault.foreignKeys_iff.mp hr.owned.foreignKeys).2.2 r hmem
  exact ⟨a, hmem, hnamed, rfl, hid ▸ hr.artifactAt ha, hsize, hr.owned.sound a ha⟩

/-- A selector of a retained role selects its identity. -/
theorem Readable.selectRole_eq (hr : Readable W t) {r : ArtifactRoleRow}
    (h : t.vault.roles.find? (fun r => r.eventDigest = x.eventDigest ∧ r.role = x.role ∧
      r.ordinal = x.ordinal) = some r) :
    selectRole W t x = .ok (r.identity, r.byteSize) ∧
      ∃ a, RoleSelected t x (r.identity, r.byteSize) r a := by
  have hmem := List.mem_of_find?_eq_some h
  have hnamed : x.Names r := by
    have hfound := List.find?_some h
    exact of_decide_eq_true hfound
  obtain ⟨a, ha⟩ := hr.roleSelected hmem hnamed
  refine ⟨?_, a, ha⟩
  unfold selectRole
  rw [h, orRefuse_some_bind, refuseIf_bind_of_not]
  · rfl
  · rw [hr.owned.scheme r hmem, hnamed.2.1, ← ha.size]
    exact not_or.mpr ⟨fun hne => hne rfl, Nat.not_lt.mpr ha.sound.bound⟩

theorem Readable.selectRole_spec (hr : Readable W t) {k : VaultIdentity × ℕ}
    (h : selectRole W t x = .ok k) : ∃ r a, RoleSelected t x k r a := by
  have hselect := h
  unfold selectRole at h
  obtain ⟨r, hfind, -⟩ := orRefuse_bind_eq_ok.mp h
  obtain ⟨heq, a, ha⟩ := hr.selectRole_eq hfind
  obtain rfl := Except.ok.inj (heq.symm.trans hselect)
  exact ⟨r, a, ha⟩

/-- The owner of a selected role is the mission that validates it. -/
theorem Readable.selectOwner_roles (hr : Readable W t) {k : VaultIdentity × ℕ} {r : ArtifactRoleRow}
    (hs : RoleSelected t x k r a) (h : selectOwner W t x = .ok m) :
    r ∈ missionRoles t m ∧ t.stream m ≠ [] := by
  unfold selectOwner at h
  obtain ⟨row, hrow, h⟩ := orRefuse_bind_eq_ok.mp h
  obtain rfl := Except.ok.inj h
  exact hr.mem_missionRoles (mem_of_findBy hrow) hs.mem
    (hs.named.1.trans (key_of_findBy hrow).symm)

/-- What the selected roles of a batch are answered with. -/
theorem Readable.loaded (hr : Readable W t) {owners : List Digest}
    (ho : selectors.mapM (selectOwner W t) = .ok owners)
    (hk : selectors.mapM (selectRole W t) = .ok keys) :
    ∃ cache, loadMissionsWithSharedEvidenceValidation W t (orderBy BitVec.toNat owners.dedup)
        keys = .ok cache ∧
      ∀ k ∈ keys, ∃ x a, findBy Prod.fst k cache = some x ∧ t.vault.artifactAt k.1 = some a ∧
        a.content = x.2 := by
  rw [mapM_eq_ok] at ho hk
  -- A key, with the selector it answers and that selector's owner.
  have hrole : ∀ k ∈ keys, ∃ m ∈ owners, ∃ r ∈ missionRoles t m, (r.identity, r.byteSize) = k := by
    intro k hmem
    obtain ⟨x, hx, hxk⟩ := exists_related_of_mem hk.flip hmem
    obtain ⟨m, hm, hxm⟩ := exists_related_of_mem ho hx
    obtain ⟨r, a, hs⟩ := hr.selectRole_spec hxk
    exact ⟨m, hm, r, (hr.selectOwner_roles hs hxm).1, hs.key⟩
  have hstreams : ∀ m ∈ orderBy BitVec.toNat owners.dedup, t.stream m ≠ [] := by
    intro m hm
    rw [mem_orderBy, List.mem_dedup] at hm
    obtain ⟨x, hx, hxm⟩ := exists_related_of_mem ho.flip hm
    obtain ⟨k, -, hxk⟩ := exists_related_of_mem hk hx
    obtain ⟨r, a, hs⟩ := hr.selectRole_spec hxk
    exact (hr.selectOwner_roles hs hxm).2
  obtain ⟨cache, hcache, hspec⟩ := hr.loadMissions keys hstreams
  refine ⟨cache, hcache, fun k hmem => ?_⟩
  obtain ⟨m, hm, r, hroles, hrk⟩ := hrole k hmem
  obtain ⟨x, a, hx, ha, -, hdata⟩ := hspec.lookup hmem
    (List.mem_flatMap.mpr ⟨m, mem_orderBy.mpr (List.mem_dedup.mpr hm), hroles⟩) hrk
  exact ⟨x, a, hx, ha, hdata⟩

theorem Readable.loadEventArtifacts_bytes (hr : Readable W t)
    (h : loadEventArtifacts W t selectors total = .ok answers) :
    List.Forall₂ (fun x bytes => ∃ r ∈ t.vault.roles, x.Names r ∧
      W.digestBytesV1 r.identity.scheme bytes = r.identity.digest ∧ bytes.length = r.byteSize)
      selectors answers := by
  unfold loadEventArtifacts at h
  obtain ⟨-, h⟩ := unit_bind_eq_ok.mp h
  obtain ⟨-, h⟩ := unit_bind_eq_ok.mp h
  obtain ⟨owners, ho, h⟩ := bind_eq_ok.mp h
  obtain ⟨keys, hk, h⟩ := bind_eq_ok.mp h
  obtain ⟨-, h⟩ := unit_bind_eq_ok.mp h
  obtain ⟨cache, hcache, h⟩ := bind_eq_ok.mp h
  rw [mapError_eq_ok] at ho hk hcache h
  obtain ⟨cache', hcache', hbytes⟩ := hr.loaded ho hk
  obtain rfl := Except.ok.inj (hcache.symm.trans hcache')
  rw [mapM_eq_ok] at hk h
  have hanswer : ∀ k ∈ keys, ∀ bytes, (do
      let x ← orRefuse (findBy Prod.fst k cache)
        (corruption "retained event artifact was not verified with its owner mission")
      return x.2 : Except StoreError (List UInt8)) = .ok bytes →
      ∀ x, selectRole W t x = .ok k → ∃ r ∈ t.vault.roles, x.Names r ∧
        W.digestBytesV1 r.identity.scheme bytes = r.identity.digest ∧
          bytes.length = r.byteSize := by
    intro k hmem bytes hb x hx
    obtain ⟨y, hy, hb⟩ := orRefuse_bind_eq_ok.mp hb
    obtain rfl := Except.ok.inj hb
    obtain ⟨z, a, hz, ha, hdata⟩ := hbytes k hmem
    obtain rfl := Option.some.inj (hy.symm.trans hz)
    obtain ⟨r, b, hs⟩ := hr.selectRole_spec hx
    have hartifact := hs.artifact
    rw [show r.identity = k.1 from congrArg Prod.fst hs.key, ha] at hartifact
    obtain rfl := Option.some.inj hartifact
    refine ⟨r, hs.mem, hs.named, ?_, ?_⟩
    · rw [← hdata, ← key_of_findBy hs.artifact]
      exact hs.sound.hashes
    · rw [← hdata, hs.sound.size, hs.size]
  exact forall₂_comp hk h fun x k bytes hmem hxk hb => hanswer k hmem bytes hb x hxk

/-- A batch of retained roles within its limits is loaded. -/
theorem Readable.loadEventArtifacts_complete (hr : Readable W t) (hne : selectors ≠ [])
    (hlen : selectors.length ≤ maxVaultBatchRequestsV1) (htotal : total ≤ defaultMaxVaultBytesV1)
    (hretained : ∀ x ∈ selectors, ∃ r ∈ t.vault.roles, x.Names r)
    (hsum : ∀ keys, selectors.mapM (selectRole W t) = .ok keys →
      (keys.dedup.map Prod.snd).sum ≤ total) :
    ∃ answers, loadEventArtifacts W t selectors total = .ok answers := by
  obtain ⟨keys, hk, -⟩ := mapM_progress (l := selectors) (f := selectRole W t)
    (P := fun _ _ => True) (fun x hx => by
      obtain ⟨r, hmem, hnamed⟩ := hretained x hx
      have hsome : (t.vault.roles.find? fun r => r.eventDigest = x.eventDigest ∧ r.role = x.role ∧
          r.ordinal = x.ordinal).isSome := List.find?_isSome.mpr ⟨r, hmem, decide_eq_true hnamed⟩
      obtain ⟨r', hr'⟩ := Option.isSome_iff_exists.mp hsome
      exact ⟨_, (hr.selectRole_eq hr').1, trivial⟩)
  obtain ⟨owners, ho, -⟩ := mapM_progress (l := selectors) (f := selectOwner W t)
    (P := fun _ _ => True) (fun x hx => by
      obtain ⟨r, hmem, hnamed⟩ := hretained x hx
      obtain ⟨row, hrow, hd⟩ :=
        (EvidenceVault.foreignKeys_iff.mp hr.owned.foreignKeys).2.1 r hmem
      have hsome : (findBy EventRow.digest x.eventDigest t.events).isSome :=
        findBy_isSome.mpr ⟨row, hrow, hd.trans hnamed.1⟩
      obtain ⟨row', hrow'⟩ := Option.isSome_iff_exists.mp hsome
      exact ⟨row'.missionId, orRefuse_bind_eq_ok.mpr ⟨row', hrow', rfl⟩, trivial⟩)
  obtain ⟨cache, hcache, hbytes⟩ := hr.loaded ho hk
  obtain ⟨answers, hanswers, -⟩ := mapM_progress (l := keys) (f := fun k => (do
      let x ← orRefuse (findBy Prod.fst k cache)
        (corruption "retained event artifact was not verified with its owner mission")
      return x.2 : Except StoreError (List UInt8))) (P := fun _ _ => True) (fun k hmem => by
    obtain ⟨x, -, hx, -⟩ := hbytes k hmem
    exact ⟨x.2, orRefuse_bind_eq_ok.mpr ⟨x, hx, rfl⟩, trivial⟩)
  unfold loadEventArtifacts
  rw [refuseIf_bind_of_not (by simpa using ⟨hne, hlen⟩),
    refuseIf_bind_of_not (Nat.not_lt.mpr htotal),
    bind_of_ok (mapError_eq_ok.mpr ho), bind_of_ok (mapError_eq_ok.mpr hk),
    refuseIf_bind_of_not (Nat.not_lt.mpr (hsum keys hk)), bind_of_ok (mapError_eq_ok.mpr hcache)]
  exact ⟨answers, mapError_eq_ok.mpr hanswers⟩

theorem Readable.selectRole_fails (hr : Readable W t) :
    FailsWith (fun e => ∃ m, e = storeError m) (selectRole W t x) := by
  cases h : t.vault.roles.find? fun r => r.eventDigest = x.eventDigest ∧ r.role = x.role ∧
      r.ordinal = x.ordinal with
  | none =>
    unfold selectRole
    rw [h]
    exact .error ⟨_, rfl⟩
  | some r =>
    rw [(hr.selectRole_eq h).1]
    exact .ok

theorem selectOwner_fails :
    FailsWith (fun e => ∃ m, e = storeError m) (selectOwner W t x) :=
  .bind (.orRefuse ⟨_, rfl⟩) fun _ _ => .ok

theorem VaultResolutionError.uncorrupted_of_store {e : StoreError} (h : ∃ m, e = storeError m) :
    (VaultResolutionError.store e).Uncorrupted := by
  obtain ⟨m, rfl⟩ := h
  exact VaultResolutionError.uncorrupted_store m

/-- Loading from an owned vault never reports corruption. -/
theorem Readable.loadEventArtifacts_uncorrupted (hr : Readable W t) :
    FailsWith VaultResolutionError.Uncorrupted (loadEventArtifacts W t selectors total) := by
  unfold loadEventArtifacts
  refine .bind (.refuseIf (VaultResolutionError.uncorrupted_store _)) fun _ _ =>
    .bind (.refuseIf (VaultResolutionError.uncorrupted_store _)) fun _ _ =>
    .bind (FailsWith.renamed (.mapM fun _ _ => selectOwner_fails)
      fun _ => VaultResolutionError.uncorrupted_of_store) fun owners ho =>
    .bind (FailsWith.renamed (.mapM fun _ _ => hr.selectRole_fails)
      fun _ => VaultResolutionError.uncorrupted_of_store) fun keys hk =>
    .bind (.refuseIf (VaultResolutionError.uncorrupted_request _ _ _)) fun _ _ => ?_
  rw [mapError_eq_ok] at ho hk
  obtain ⟨cache, hcache, hbytes⟩ := hr.loaded ho hk
  rw [bind_of_ok (mapError_eq_ok.mpr hcache)]
  refine FailsWith.renamed (Q := fun _ => False) (.mapM fun k hmem => ?_) fun _ h => h.elim
  obtain ⟨x, -, hx, -⟩ := hbytes k hmem
  rw [hx]
  exact .ok

end Load

end Owned

/-! ## The laws of the vault -/

/-- What the retained-evidence checks and the resolution of identities answer. -/
structure VaultAnswers (W : VaultEnv) (t : Tables EvidenceVault W.Qualified) : Prop where
  replayed : ∀ r ∈ t.events, verifyEventManifest W.digestBytesV1 t.vault r.canonical = .ok ()
  verified : ∀ m, verifiedStream W.env t m = .ok (t.stream m)
  uncorrupted : ∀ requests staging total,
    FailsWith VaultResolutionError.Uncorrupted (resolveEvidenceArtifacts W t requests staging total)
  resolved : ∀ (requests : List VaultArtifactResolutionRequestV1) staging total answers,
    resolveEvidenceArtifacts W t requests staging total = .ok answers →
    answers.length = requests.length ∧ ∀ (k : ℕ) (r : VaultArtifactResolutionRequestV1)
      (a : VaultArtifactRow), requests[k]? = some r → a ∈ t.vault.artifacts →
      a.identity = r.identityKey → answers[k]? = some a.content
  complete : ∀ requests total, requests ≠ [] → requests.length ≤ maxVaultBatchRequestsV1 →
    total ≤ defaultMaxVaultBytesV1 →
    (∀ r ∈ requests, ∃ a, t.vault.artifactAt r.identityKey = some a ∧
      a.byteSize ≤ r.effectiveMaximum) →
    ∑ i ∈ (requests.map VaultArtifactResolutionRequestV1.identityKey).toFinset,
      t.vault.sizeOf i ≤ total →
    ∀ staging, ∃ answers, resolveEvidenceArtifacts W t requests staging total = .ok answers

theorem Readable.answers {W : VaultEnv} {t : Tables EvidenceVault W.Qualified}
    (hr : Readable W t) : VaultAnswers W t where
  replayed r hmem := verifyEventManifest_eq_ok.mpr (hr.owned.manifest r hmem)
  verified := hr.verifiedStream
  uncorrupted _ _ _ := hr.resolve_uncorrupted
  resolved requests staging total answers h := by
    obtain ⟨hlen, hanswers⟩ := hr.resolved h
    refine ⟨hlen, fun k r a hk ha hid => hanswers k r a hk ?_⟩
    rw [← hid]
    exact hr.artifactAt ha
  complete _ _ hne hlen htotal hretained hsum _ := hr.complete hne hlen htotal hretained hsum

/-- In every state of every run the roles of an event are its derived manifest, every
artifact is retained once with the bytes of its digest and belongs to the first event that
claims it, and the checks and reads of the vault find it so. -/
theorem vault_ownership {W : VaultEnv} {s : Sys W.env} (h : s.Reachable) :
    VaultOwned W.digestBytesV1 s.tables ∧ VaultAnswers W s.tables :=
  ⟨h.vaultOwned, h.readable.answers⟩

/-- The bytes of the phase records, of the block history and of the profiles. -/
def recordAndProfileBytes (E : Env) (t : E.Db) : ℕ :=
  (t.pending.map fun r => E.integrity.pendingBytes r.record).sum +
    (t.anchors.map fun r => E.integrity.anchorBytes r.record).sum +
    (t.candidates.map fun r => E.integrity.candidateBytes r.record).sum +
    (t.finalizations.map fun r => E.integrity.finalizationBytes r.record).sum +
    (t.observations.map fun r => E.recovery.observationBytes r.record).sum +
    (t.decisions.map fun r => E.recovery.decisionBytes r.record).sum +
    (t.recoveryProfile.elim 0 fun r => digestTextBytes + E.recovery.profileBytes r.profile) +
    t.acceptanceProfile.elim 0 E.qualifiedBytes +
    match t.profile with
    | .legacy => 0
    | .modeled p => E.modeledProfileBytes p

/-- In every state of every run the logical storage is the bytes of the vault's artifacts and of the
provider evidence, each counted once under its identity, and of all records. -/
theorem logicalEvidenceStorageUsed_counts {W : VaultEnv} {s : Sys W.env} (h : s.Reachable) :
    (s.tables.vault.artifacts.map VaultArtifactRow.identity).Nodup ∧
      (s.tables.artifacts.map ArtifactRow.evidenceId).Nodup ∧
      logicalEvidenceStorageUsed W.env s.tables =
        (s.tables.vault.artifacts.map fun a => a.content.length).sum +
          (s.tables.artifacts.map fun a => a.content.length).sum +
          recordAndProfileBytes W.env s.tables := by
  have howned := h.vaultOwned
  have hsized : SizedEvidence s.tables := by
    obtain ⟨s₀, hfresh, -, hr⟩ := h
    refine hr.sized ?_
    rw [hfresh]
    exact fun a ha => absurd ha List.not_mem_nil
  have hvault : W.env.vaultUsedBytes s.tables.vault =
      (s.tables.vault.artifacts.map fun a => a.content.length).sum :=
    congrArg List.sum (List.map_congr_left fun a ha => (howned.sound a ha).size.symm)
  have hevidence : s.tables.artifacts.map ArtifactRow.byteSize =
      s.tables.artifacts.map fun a => a.content.length := List.map_congr_left hsized
  refine ⟨howned.once, h.cacheSound.keys.artifactId, ?_⟩
  unfold logicalEvidenceStorageUsed recordAndProfileBytes
  rw [hvault, hevidence]
  cases s.tables.profile with
  | legacy =>
    dsimp only
    omega
  | modeled p =>
    dsimp only
    omega

/-- In every state of every run a batch of roles is loaded with the bytes their events bind,
is refused only for its form or its limits, and is not refused when all its roles are
retained and it is within them. -/
theorem event_artifacts_loaded {W : VaultEnv} {s : Sys W.env} (h : s.Reachable)
    (selectors : List VaultEventArtifactSelectorV1) (total : ℕ) :
    FailsWith VaultResolutionError.Uncorrupted (loadEventArtifacts W s.tables selectors total) ∧
    (∀ answers, loadEventArtifacts W s.tables selectors total = .ok answers →
      List.Forall₂ (fun x bytes => ∃ r ∈ EvidenceVault.roles s.tables.vault, x.Names r ∧
        W.digestBytesV1 r.identity.scheme bytes = r.identity.digest ∧ bytes.length = r.byteSize)
        selectors answers) ∧
    (selectors ≠ [] → selectors.length ≤ maxVaultBatchRequestsV1 →
      total ≤ defaultMaxVaultBytesV1 →
      (∀ x ∈ selectors, ∃ r ∈ EvidenceVault.roles s.tables.vault, x.Names r) →
      (∀ keys, selectors.mapM (selectRole W s.tables) = .ok keys →
        (keys.dedup.map Prod.snd).sum ≤ total) →
      ∃ answers, loadEventArtifacts W s.tables selectors total = .ok answers) :=
  ⟨h.readable.loadEventArtifacts_uncorrupted, fun _ => h.readable.loadEventArtifacts_bytes,
    h.readable.loadEventArtifacts_complete⟩

/-- The selector of the sample event's authority evidence. -/
def sampleSelector : VaultEventArtifactSelectorV1 :=
  ⟨sampleFirst.eventDigest, .authorityEvidence, 0⟩

theorem sampleVaultAnchored_reachable : sampleVaultAnchored.Reachable :=
  ⟨sampleVaultOpened, rfl, fun _ => rfl,
    ((Reaches.refl.step (Sys.perform_step _ _ _)).step (Sys.perform_step _ _ _)).step
      (Sys.perform_step _ _ _)⟩

/-- The authority evidence of the sample event, within exactly its size. -/
theorem event_artifacts_loaded_sample : ∃ answers,
    loadEventArtifacts sampleVaultEnv sampleVaultAnchored.tables [sampleSelector] 3 =
      .ok answers := by
  refine (event_artifacts_loaded sampleVaultAnchored_reachable [sampleSelector] 3).2.2 (by simp)
    (by decide) (by decide) (by decide +kernel) fun keys hk => ?_
  have hkeys : [sampleSelector].mapM (selectRole sampleVaultEnv sampleVaultAnchored.tables) =
      .ok [(⟨.generic, 103⟩, 3)] := by decide +kernel
  rw [← Except.ok.inj (hkeys.symm.trans hk)]
  decide

/-- A vault with an artifact. -/
theorem vault_ownership_sample : sampleVaultAnchored.tables.vault.artifacts ≠ [] ∧
    VaultOwned sampleVaultEnv.digestBytesV1 sampleVaultAnchored.tables ∧
      VaultAnswers sampleVaultEnv sampleVaultAnchored.tables :=
  ⟨by decide +kernel, vault_ownership sampleVaultAnchored_reachable⟩

end Etzio
