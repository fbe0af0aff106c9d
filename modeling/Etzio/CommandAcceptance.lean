import Etzio.CommandRefinement

/-!
# What the reducer accepts of a command

The drafts that read the vault : artifact resolution and receipt admission. A run of such a
draft ends with a proposal only through its own checks, which `ResolveDraft` and `AdmitDraft`
list. `commands_refine_reducer` puts the seven commands together : whatever a command drafts
on an accepted stream, the reducer accepts the stream extended by it, and the defensive
`reduce_events` of `VerificationCommand.prepare` changes no run.
-/

open CheckedRun Interaction LeaseBook

namespace Etzio

variable {P : Primitives} {W : CommandEnv} {S : Type*}
  {H : (σ : Type) → S → StoreCall σ → σ → S → Prop}

/-! ## Runs of drafts -/

/-- A pure part of a program passes its value on and calls nothing. -/
theorem ends_ofExcept_bind {α β : Type} {x : Except CommandError α} {f : α → CommandProg β}
    {b : β} {s s' : S} :
    Ends H s (ofExcept x >>= f) (.ok b) s' ↔ ∃ a, x = .ok a ∧ Ends H s (f a) (.ok b) s' := by
  simp only [ends_bind_ok, ofExcept, ends_done]
  constructor
  · rintro ⟨a, t, ⟨hx, rfl⟩, h⟩
    exact ⟨a, hx.symm, h⟩
  · rintro ⟨a, hx, h⟩
    exact ⟨a, s, ⟨hx.symm, rfl⟩, h⟩

/-- A check of a program either stops it or does nothing. -/
theorem ends_check_bind {β : Type} {x : Except CommandError Unit} {f : Unit → CommandProg β}
    {b : β} {s s' : S} :
    Ends H s (ofExcept x >>= f) (.ok b) s' ↔ x = .ok () ∧ Ends H s (f ()) (.ok b) s' := by
  rw [ends_ofExcept_bind]
  constructor
  · rintro ⟨⟨⟩, hx, h⟩
    exact ⟨hx, h⟩
  · rintro ⟨hx, h⟩
    exact ⟨(), hx, h⟩

theorem ends_ofExcept {α : Type} {x : Except CommandError α} {a : α} {s s' : S} :
    Ends H s (ofExcept x) (.ok a) s' ↔ x = .ok a ∧ s' = s := by
  rw [ofExcept, ends_done, eq_comm]

/-! ## Retained resolutions -/

theorem filterMap_ofKinds {β : Type} {f : EventV1 → Option β} {kinds : List EventKind}
    (hf : ∀ e : EventV1, e.kind ∉ kinds → f e = none) (h : List EventV1) :
    (ofKinds kinds h).filterMap f = h.filterMap f := by
  induction h with
  | nil => rfl
  | cons e h ih =>
    simp only [ofKinds] at ih ⊢
    by_cases hk : e.kind ∈ kinds
    · rw [List.filter_cons_of_pos (by simpa using hk), List.filterMap_cons, List.filterMap_cons, ih]
    · rw [List.filter_cons_of_neg (by simpa using hk), List.filterMap_cons, hf e hk, ih]

/-- The retained resolutions as a command reads them, with their events. -/
theorem resolutions_read {retained : List EventV1} {q : MissionProjection}
    (h : reduceEvents P retained = .ok q) :
    q.final.verificationArtifactResolutionEvents.filterMap (fun e =>
      e.resolution?.map fun r => (e, r)) =
    retained.filterMap fun e => e.resolution?.map fun r => (e, r) := by
  obtain ⟨first, rest, rfl, -, run⟩ := reduceEvents_eq_ok h
  rw [(reduceLoop_records run).resolutions]
  refine filterMap_ofKinds (fun e hk => ?_) _
  unfold EventV1.resolution?
  split
  · rename_i hp
    simp [EventBody.kind, hp, Payload.kind] at hk
  · rfl

theorem retainedResolutions_eq (h : List EventV1) :
    retainedResolutions h = (h.filterMap fun e => e.resolution?.map fun r => (e, r)).map
      Prod.snd := by
  rw [retainedResolutions, List.map_filterMap]
  congr 1
  funext e
  simp

/-- A lease for which a command finds no resolution is not resolved. -/
theorem existingResolution_eq_none {retained : List EventV1} {q : MissionProjection} {i : Digest}
    (h : reduceEvents P retained = .ok q) (hnone : existingResolution q i = .ok none) :
    i ∉ q.final.resolvedVerificationLeaseIds := by
  unfold existingResolution at hnone
  rw [resolutions_read h] at hnone
  split at hnone
  · rename_i hempty
    obtain ⟨first, rest, rfl, -, run⟩ := reduceEvents_eq_ok h
    rw [(reduceLoop_lookups run).resolved, resolvedLeases_eq, retainedResolutions_eq]
    rw [List.filter_eq_nil_iff] at hempty
    intro hi
    obtain ⟨r, hr, hri⟩ := List.mem_map.mp hi
    obtain ⟨x, hx, rfl⟩ := List.mem_map.mp hr
    exact hempty x hx (by simpa using hri)
  · simp at hnone
  · simp [reject] at hnone

/-- The resolution that a command finds is the one the reducer looks up. -/
theorem existingResolution_eq_some {retained : List EventV1} {q : MissionProjection} {i : Digest}
    {x : EventV1 × VerificationArtifactResolutionV1} (h : reduceEvents P retained = .ok q)
    (hx : existingResolution q i = .ok (some x)) :
    q.final.verificationResolutionsByLeaseId.lookup i = some x.2 ∧ x.1 ∈ retained ∧
      x.1.resolution? = some x.2 ∧ x.2.verificationLeaseId = i := by
  unfold existingResolution at hx
  rw [resolutions_read h] at hx
  split at hx
  · simp at hx
  · rename_i y hone
    obtain rfl := Option.some.inj (Except.ok.inj hx)
    have hmem : y ∈ (retained.filterMap fun e => e.resolution?.map fun r => (e, r)).filter
        fun x => x.2.verificationLeaseId = i := by
      rw [hone]
      exact List.mem_singleton_self y
    obtain ⟨hmem, hid⟩ := List.mem_filter.mp hmem
    obtain ⟨e, he, hy⟩ := List.mem_filterMap.mp hmem
    obtain ⟨r, hr, rfl⟩ := Option.map_eq_some_iff.mp hy
    refine ⟨?_, he, hr, of_decide_eq_true hid⟩
    obtain ⟨first, rest, rfl, -, run⟩ := reduceEvents_eq_ok h
    have hfirst := congrArg List.head? hone
    rw [List.head?_filter] at hfirst
    rw [(reduceLoop_lookups run).resolutions, retainedResolutions_eq, List.find?_map]
    exact congrArg (Option.map Prod.snd) hfirst
  · simp [reject] at hx

/-- The snapshot that a command finds is the reducer's. -/
theorem targetSnapshotOf_eq_ok {retained : List EventV1} {q : MissionProjection} {what : String}
    {e : EventV1} {snapshot : TargetSnapshotV1} (h : reduceEvents P retained = .ok q)
    (ht : targetSnapshotOf q what = .ok (e, snapshot)) :
    q.final.targetSnapshot = some snapshot := by
  obtain ⟨first, rest, rfl, hevents, run⟩ := reduceEvents_eq_ok h
  have hfind := orRefuse_eq_ok.mp ht
  rw [hevents] at hfind
  rw [(reduceLoop_lookups run).snapshot]
  generalize first :: rest = l at hfind
  induction l with
  | nil => simp at hfind
  | cons x l ih =>
    rw [List.findSome?_cons] at hfind ⊢
    cases hx : x.snapshot? with
    | none =>
      rw [hx] at hfind
      exact ih hfind
    | some t =>
      rw [hx] at hfind
      exact congrArg (Option.map Prod.snd) hfind

/-! ## Artifact resolution -/

/-- What `_resolve_from_cas` establishes of the resolution it builds. -/
structure ResolvedFrom (lease : VerificationLeaseV1) (grant : AuthorityGrantV1) (t : ℕ)
    (snapshot : TargetSnapshotV1) (r : VerificationArtifactResolutionV1) : Prop where
  bindings : r.missionId = lease.missionId ∧ r.authorityId = lease.authorityId ∧
    r.targetSnapshotId = lease.targetSnapshotId ∧ r.candidateId = lease.candidateId
  leaseId : r.verificationLeaseId = lease.leaseId
  time : r.resolvedAt = t
  targets : sameTargets r snapshot
  artifacts : sameArtifacts r lease
  bytes : r.totalBytes ≤ grant.maxBytes ∧
    r.typedInputBytes ≤ maxTypedVerificationInputBytesV1 ∧
    r.totalBytes ≤ maxResolutionArtifactBytesV1

/-- The files of a validated snapshot have the sizes of the bytes that were read. -/
theorem targets_sizes {snapshot : TargetSnapshotV1}
    {sources : List (SnapshotFileV1 × List UInt8)} {targets : List TargetArtifactBindingV1}
    (hvalid : validateEtzioFixtureSnapshotBytes W snapshot sources = .ok ())
    (htargets : snapshot.files.mapM (targetBinding W sources) = .ok targets) :
    (targets.map fun b => (b.artifactDigest, b.relativePath, b.size)) =
      snapshot.files.map fun f => (f.artifactDigest, f.relativePath, f.size) := by
  obtain ⟨-, hfiles⟩ := unit_bind_eq_ok.mp hvalid
  rw [forM_eq_ok] at hfiles
  have hboth := (List.forall₂_and_left _ _).mpr ⟨hfiles, mapM_eq_ok.mp htargets⟩
  rw [eq_comm, ← List.forall₂_eq_eq_eq, List.forall₂_map_left_iff, List.forall₂_map_right_iff]
  refine hboth.imp fun f b ⟨hfile, hbinding⟩ => ?_
  obtain ⟨data, hdata, hconstruct⟩ := orRefuse_bind_eq_ok.mp hbinding
  simp only [TargetArtifactBindingV1.construct, unit_bind_eq_ok] at hconstruct
  obtain ⟨-, -, hb⟩ := hconstruct
  obtain rfl := Except.ok.inj hb
  obtain ⟨entry, -, hchecks⟩ := orRefuse_bind_eq_ok.mp hfile
  simp only [unit_bind_eq_ok, orRefuse_bind_eq_ok, refuseIf_eq_ok, not_or, not_not] at hchecks
  obtain ⟨⟨hsize, -⟩, data', hdata', hlength, -⟩ := hchecks
  obtain rfl : data = data' := Option.some.inj (hdata.symm.trans hdata')
  simp [hlength, hsize]

theorem zipStrict_eq_ok {α β : Type} {l : List α} {m : List β} {z : List (α × β)}
    (h : zipStrict l m = .ok z) : z.map Prod.fst = l ∧ z.map Prod.snd = m := by
  obtain ⟨hlength, hz⟩ := unit_bind_eq_ok.mp h
  have hlength := not_not.mp (refuseIf_eq_ok.mp hlength)
  obtain rfl := Except.ok.inj hz
  exact ⟨List.map_fst_zip hlength.le, List.map_snd_zip hlength.ge⟩

/-- The typed bindings carry the digests of their specs. -/
theorem typedBindings_digests {z : List ((String × VaultRole × ArtifactType × Digest) ×
      List UInt8)} {bindings : List VerificationArtifactBindingV1}
    (h : z.mapM typedBinding = .ok bindings) :
    bindings.map VerificationArtifactBindingV1.artifactDigest =
      (z.map Prod.fst).map fun s => s.2.2.2 := by
  rw [List.map_map, eq_comm, ← List.forall₂_eq_eq_eq, List.forall₂_map_left_iff,
    List.forall₂_map_right_iff]
  refine (mapM_eq_ok.mp h).imp fun x b hb => ?_
  simp only [typedBinding, VerificationArtifactBindingV1.construct, unit_bind_eq_ok] at hb
  obtain ⟨-, -, hb⟩ := hb
  obtain rfl := Except.ok.inj hb
  rfl

theorem assembleResolution_eq_ok {lease : VerificationLeaseV1} {grant : AuthorityGrantV1}
    {t typedLimit : ℕ} {targets : List TargetArtifactBindingV1} {typedBytes : List (List UInt8)}
    {snapshot : TargetSnapshotV1} {r : VerificationArtifactResolutionV1}
    (hlimit : typedLimit ≤ maxTypedVerificationInputBytesV1)
    (htargets : (targets.map fun b => (b.artifactDigest, b.relativePath, b.size)) =
      snapshot.files.map fun f => (f.artifactDigest, f.relativePath, f.size))
    (h : assembleResolution W lease grant t typedLimit targets typedBytes = .ok r) :
    ResolvedFrom lease grant t snapshot r := by
  obtain ⟨-, h⟩ := unit_bind_eq_ok.mp h
  obtain ⟨z, hz, h⟩ := bind_eq_ok.mp h
  obtain ⟨bindings, hbindings, h⟩ := bind_eq_ok.mp h
  have hdigests := typedBindings_digests hbindings
  rw [(zipStrict_eq_ok hz).1] at hdigests
  split at h
  · rename_i poc environment effectOracle evidence
    obtain ⟨r', hr, h⟩ := bind_eq_ok.mp h
    simp only [unit_bind_eq_ok, refuseIf_eq_ok, not_or, not_lt] at h
    obtain ⟨⟨htyped, htotal⟩, hoverall, hreturn⟩ := h
    obtain rfl := Except.ok.inj hreturn
    simp only [issueResolution, unit_bind_eq_ok] at hr
    obtain ⟨-, -, hr⟩ := hr
    obtain rfl := Except.ok.inj hr
    simp only [typedSpecs, List.map_cons, List.map_map, List.cons_append, List.nil_append,
      List.cons.injEq] at hdigests
    obtain ⟨hpoc, henvironment, horacle, hevidence⟩ := hdigests
    refine ⟨⟨rfl, rfl, rfl, rfl⟩, rfl, rfl, htargets, ⟨hpoc, henvironment, horacle, ?_⟩,
      htotal, htyped.trans hlimit, hoverall⟩
    rw [hevidence]
    exact List.map_id _
  · simp at h

/-- Whatever the vault replies, a resolution is only built as `ResolvedFrom` says. -/
theorem resolveFromCas_ends {q : MissionProjection} {lease : VerificationLeaseV1} {t : ℕ}
    {grant : AuthorityGrantV1} {r : VerificationArtifactResolutionV1} {s s' : S}
    (h : Ends H s (resolveFromCas W q lease t grant) (.ok r) s') :
    ∃ e snapshot, targetSnapshotOf q "artifact resolution" = .ok (e, snapshot) ∧
      ResolvedFrom lease grant t snapshot r := by
  obtain ⟨⟨e, snapshot⟩, htarget, h⟩ := ends_ofExcept_bind.mp h
  obtain ⟨-, h⟩ := ends_check_bind.mp h
  obtain ⟨-, h⟩ := ends_check_bind.mp h
  obtain ⟨data, s₁, -, h⟩ := ends_bind_ok.mp h
  obtain ⟨sources, -, h⟩ := ends_ofExcept_bind.mp h
  obtain ⟨hvalid, h⟩ := ends_check_bind.mp h
  obtain ⟨targets, htargets, h⟩ := ends_ofExcept_bind.mp h
  obtain ⟨typedBytes, s₂, -, h⟩ := ends_bind_ok.mp h
  exact ⟨e, snapshot, htarget, assembleResolution_eq_ok (min_le_right _ _)
    (targets_sizes hvalid htargets) (ends_ofExcept.mp h).1⟩

/-- What `resolve_modeled_fixture_verification_artifacts` checks before it looks for an earlier
event, but for the disposition of the lease. -/
structure ResolveContext (r : LeaseRequest) (q : MissionProjection) (lease : VerificationLeaseV1)
    (grant : AuthorityGrantV1) (admission : AuthorityAdmissionV1) : Prop where
  found : leaseById q r.verificationLeaseId = .ok lease
  candidate : assertCandidateRetained q lease.candidateId = .ok ()
  authority : authorityEvidence q "artifact resolution requires" = .ok (grant, admission)

/-- The lookup of an earlier resolution. -/
def resolutionLookup (r : LeaseRequest) (c : MissionProjection) :
    Except CommandError (Option CommandOutcome) := do
  match ← existingResolution c r.verificationLeaseId with
  | some x => return some (← replayResolution c x r.decisionTime)
  | none => return none

/-- What `resolve_modeled_fixture_verification_artifacts` checked when it proposes. -/
structure ResolveDraft (P : Primitives) (r : LeaseRequest) (retained : List EventV1)
    (q : MissionProjection) (p : Proposal) (lease : VerificationLeaseV1)
    (grant : AuthorityGrantV1) (admission : AuthorityAdmissionV1) (opened : EventV1)
    (snapshot : TargetSnapshotV1) (resolution : VerificationArtifactResolutionV1) : Prop
    extends ResolveContext r q lease grant admission where
  active : r.verificationLeaseId ∈ q.final.activeVerificationLeaseIds
  existing : existingResolution q r.verificationLeaseId = .ok none
  phase : q.final.phase = .awaitingVerification
  head : assertHead retained r.expectedHead r.decisionTime "artifact resolution time" = .ok ()
  window : lease.issuedAt ≤ r.decisionTime ∧ r.decisionTime < lease.expiresAt
  target : targetSnapshotOf q "artifact resolution" = .ok (opened, snapshot)
  resolved : ResolvedFrom lease grant r.decisionTime snapshot resolution
  created : createEvent P retained q r.decisionTime (.verificationArtifactsResolved resolution) =
    .ok p.event
  lookup : p.existing = resolutionLookup r
  committed : p.committed = fun c =>
    committedOutcome c.final.verificationArtifactResolutionEvents c p.event
      "artifact resolution event" fun x => do
        let committed ← orRefuse x.resolution? (.raised "event has no resolution")
        refuseIf (committed.resolutionId ≠ resolution.resolutionId)
          (CommandError.rejected "committed_resolution_mismatch"
            "appended artifact resolution differs after replay")
        return .resolution committed

/-- A draft of a resolution found the event of an earlier call, or proposes. -/
theorem draftResolve_ends {r : LeaseRequest} {retained : List EventV1} {q : MissionProjection}
    {d : Draft} {s s' : S} (h : Ends H s (draftResolve P W r retained q) (.ok d) s') :
    ∃ lease grant admission, ResolveContext r q lease grant admission ∧
      r.verificationLeaseId ∈ q.final.activeVerificationLeaseIds ∧
      ((∃ o, d = .replay o ∧ resolutionLookup r q = .ok (some o)) ∨
        ∃ p opened snapshot resolution, d = .propose p ∧
          ResolveDraft P r retained q p lease grant admission opened snapshot resolution) := by
  obtain ⟨lease, hlease, h⟩ := ends_ofExcept_bind.mp h
  obtain ⟨hcandidate, h⟩ := ends_check_bind.mp h
  obtain ⟨⟨grant, admission⟩, hauthority, h⟩ := ends_ofExcept_bind.mp h
  obtain ⟨hactive, h⟩ := ends_check_bind.mp h
  have hactive := not_not.mp (refuseIf_eq_ok.mp hactive)
  have hcontext : ResolveContext r q lease grant admission := ⟨hlease, hcandidate, hauthority⟩
  refine ⟨lease, grant, admission, hcontext, hactive, ?_⟩
  obtain ⟨existing, hexisting, h⟩ := ends_ofExcept_bind.mp h
  cases existing with
  | some x =>
    obtain ⟨o, ho, h⟩ := ends_ofExcept_bind.mp h
    obtain ⟨hd, -⟩ := ends_pure.mp h
    refine .inl ⟨o, Except.ok.inj hd, ?_⟩
    rw [resolutionLookup, bind_of_ok hexisting]
    dsimp only
    rw [bind_of_ok ho]
    rfl
  | none =>
    obtain ⟨-, h⟩ := ends_check_bind.mp h
    obtain ⟨hphase, h⟩ := ends_check_bind.mp h
    obtain ⟨hhead, h⟩ := ends_check_bind.mp h
    obtain ⟨hissued, h⟩ := ends_check_bind.mp h
    obtain ⟨hexpires, h⟩ := ends_check_bind.mp h
    obtain ⟨resolution, s₁, hresolution, h⟩ := ends_bind_ok.mp h
    obtain ⟨e, he, h⟩ := ends_ofExcept_bind.mp h
    obtain ⟨opened, snapshot, htarget, hresolved⟩ := resolveFromCas_ends hresolution
    simp only [refuseIf_eq_ok, not_not, not_lt, ge_iff_le, not_le] at hphase hissued hexpires
    obtain ⟨hp, -⟩ := ends_pure.mp h
    obtain rfl := Except.ok.inj hp
    exact .inr ⟨_, opened, snapshot, resolution, rfl, hcontext, hactive, hexisting, hphase, hhead,
      ⟨hissued, hexpires⟩, htarget, hresolved, he, rfl, rfl⟩

theorem draftResolve_propose {r : LeaseRequest} {retained : List EventV1} {q : MissionProjection}
    {p : Proposal} {s s' : S} (h : Ends H s (draftResolve P W r retained q) (.ok (.propose p)) s') :
    ∃ lease grant admission opened snapshot resolution,
      ResolveDraft P r retained q p lease grant admission opened snapshot resolution := by
  obtain ⟨lease, grant, admission, -, -, ⟨o, hp, -⟩ |
    ⟨p', opened, snapshot, resolution, hp, hdraft⟩⟩ := draftResolve_ends h
  · simp at hp
  · obtain rfl := Draft.propose.inj hp
    exact ⟨lease, grant, admission, opened, snapshot, resolution, hdraft⟩

theorem applyVerificationArtifactsResolved_ok {s : Reduction} {e : EventV1}
    {r : VerificationArtifactResolutionV1} {lease : VerificationLeaseV1}
    {snapshot : TargetSnapshotV1} {grant : AuthorityGrantV1}
    (hlease : s.verificationLeasesById.lookup r.verificationLeaseId = some lease)
    (hlatest : lease.leaseId ∈ s.activeVerificationLeaseIds ∧
      s.latestVerificationLeaseByCandidate.lookup lease.candidateId = some lease.leaseId)
    (hfresh : r.verificationLeaseId ∉ s.resolvedVerificationLeaseIds)
    (hbindings : r.missionId = s.missionId ∧ r.authorityId = s.authorityId ∧
      r.targetSnapshotId = s.targetId ∧ r.candidateId = lease.candidateId)
    (htime : r.resolvedAt = e.decisionTime)
    (hwindow : lease.issuedAt ≤ r.resolvedAt ∧ r.resolvedAt < lease.expiresAt)
    (hsnapshot : s.targetSnapshot = some snapshot) (htargets : sameTargets r snapshot)
    (hartifacts : sameArtifacts r lease) (hgrant : s.admittedGrant = some grant)
    (hbytes : r.totalBytes ≤ grant.maxBytes ∧
      r.typedInputBytes ≤ maxTypedVerificationInputBytesV1 ∧
      r.totalBytes ≤ maxResolutionArtifactBytesV1) :
    ∃ t, applyVerificationArtifactsResolved s e r = .ok t := by
  obtain ⟨hactive, hlatest⟩ := hlatest
  obtain ⟨hm, ha, ht, hc⟩ := hbindings
  obtain ⟨h₁, h₂, h₃⟩ := hbytes
  rw [applyVerificationArtifactsResolved, bind_of_ok (orRefuse_eq_ok.mpr hlease),
    refuseIf_bind_of_not (not_or.mpr ⟨not_not.mpr hactive, not_not.mpr hlatest⟩),
    refuseIf_bind_of_not hfresh, refuseIf_bind_of_not (by simp [hm, ha, ht, hc]),
    refuseIf_bind_of_not (not_not.mpr htime), refuseIf_bind_of_not (not_not.mpr hwindow),
    bind_of_ok (orRefuse_eq_ok.mpr hsnapshot), refuseIf_bind_of_not (not_not.mpr htargets),
    refuseIf_bind_of_not (not_not.mpr hartifacts), bind_of_ok (orRefuse_eq_ok.mpr hgrant),
    refuseIf_bind_of_not (by omega)]
  exact ⟨_, rfl⟩

theorem draftResolve_drafted {r : LeaseRequest} {retained : List EventV1} {q : MissionProjection}
    {p : Proposal} {s s' : S} (h : reduceEvents P retained = .ok q)
    (hd : Ends H s (draftResolve P W r retained q) (.ok (.propose p)) s') :
    Drafted P q p.event := by
  obtain ⟨lease, grant, admission, opened, snapshot, resolution, hdraft⟩ := draftResolve_propose hd
  refine .of_created h hdraft.created hdraft.head
    (by rw [hdraft.phase]; exact Option.some_ne_none _) ?_
  obtain ⟨hnext, hverify⟩ := createEvent_eq_ok h hdraft.created
  obtain ⟨hgrant, -, -⟩ := authorityEvidence_eq_ok h hdraft.authority
  have hlatest := latest_of_leaseById h hdraft.found hdraft.active
  have hfresh := existingResolution_eq_none h hdraft.existing
  have hsnapshot := targetSnapshotOf_eq_ok h hdraft.target
  obtain ⟨hlookup, hid, hmem⟩ := leaseById_eq_ok h hdraft.found
  have hactive := hdraft.active
  obtain ⟨first, rest, rfl, -, run⟩ := reduceEvents_eq_ok h
  obtain ⟨⟨hm, ha, ht⟩, -⟩ := createdLease_identities run hmem
  obtain ⟨hbm, hba, hbt, hbc⟩ := hdraft.resolved.bindings
  have hlease := hdraft.resolved.leaseId.trans hid
  have htime := hdraft.resolved.time
  rw [hnext]
  refine applyVerificationArtifactsResolved_ok (hlease ▸ hlookup)
    ⟨hid.symm ▸ hactive, hid.symm ▸ hlatest⟩ (hlease ▸ hfresh)
    ⟨hbm.trans hm, hba.trans ha, hbt.trans ht, hbc⟩ htime (htime ▸ hdraft.window) hsnapshot
    hdraft.resolved.targets hdraft.resolved.artifacts hgrant hdraft.resolved.bytes

/-! ## Receipt admission -/

/-- A consumed lease has a retained receipt. -/
theorem receipt_of_consumed {first : EventV1} {events : List EventV1} {s : Reduction} {i : Digest}
    (run : reduceLoop P first events = .ok s) (hi : i ∈ s.consumedVerificationLeaseIds) :
    ∃ e ∈ events, ∃ r, e.receipt? = some r ∧ r.leaseId = i := by
  obtain ⟨b, hb, hr⟩ := reduceLoop_follows run
  have hstatus : b.status i = some .consumed := (hr.status .consumed i).mp hi
  have hmem : .consume i ∈ leaseMoves events := by
    rw [← List.count_pos_iff, (settled hb).consumed, if_pos hstatus]
    exact Nat.one_pos
  obtain ⟨e, he, hmove⟩ := List.mem_filterMap.mp hmem
  obtain ⟨r, hr, hid⟩ := receipt_of_leaseMove hmove
  exact ⟨e, he, r, hr, hid⟩

/-- An authenticated receipt is what was authenticated. -/
theorem authenticateVerifierReceipt_eq {signed : SignedVerifierReceiptV1}
    {trust : VerifierTrustStore} {lease : VerificationLeaseV1}
    {resolution : VerificationArtifactResolutionV1} {t : ℕ} {a : AuthenticatedVerifierReceiptV1}
    (h : authenticateVerifierReceipt P signed trust lease resolution t = .ok a) :
    a = { signedReceipt := signed, lease := lease, artifactResolution := resolution,
          decisionTrustSnapshotId := P.trustSnapshotId trust } := by
  simp only [authenticateVerifierReceipt, unit_bind_eq_ok, orRefuse_bind_eq_ok] at h
  obtain ⟨-, -, -, -, -, -, key, -, -, -, -, -, -, -, -, -, -, -, -, -, hconstruct⟩ := h
  simp only [constructAuthenticated, unit_bind_eq_ok] at hconstruct
  exact (Except.ok.inj hconstruct.2.2).symm

theorem receipt?_of_admission? {e : EventV1}
    {x : String × VerifierTrustStore × Digest × SignedVerifierReceiptV1 ×
      VerificationOutputArtifactsV1} (h : e.admission? = some x) :
    e.receipt? = some x.2.2.2.1.receipt := by
  unfold EventV1.admission? at h
  unfold EventV1.receipt?
  split at h <;> simp_all
  rw [← h]

/-- Every receipt that a command's search passes over is another lease's, and another. -/
theorem existingAdmissionIn_eq_none {a : AuthenticatedVerifierReceiptV1}
    {trust : VerifierTrustStore} {t : ℕ} {q : MissionProjection} {events : List EventV1}
    (h : existingAdmissionIn P a trust t q events = .ok none) :
    ∀ e ∈ events, ∃ x, e.receipt? = some x ∧ x.leaseId ≠ a.lease.leaseId ∧
      x.receiptId ≠ a.receipt.receiptId := by
  induction events with
  | nil => simp
  | cons e events ih =>
    obtain ⟨x, hx, h⟩ := orRefuse_bind_eq_ok.mp h
    obtain ⟨profile, snapshot, snapshotId, signed, outputs⟩ := x
    simp only at h
    split_ifs at h with hlease hid
    · obtain ⟨-, hreturn⟩ := unit_bind_eq_ok.mp h
      simp [pure, Except.pure] at hreturn
    · simp [reject] at h
    · exact List.forall_mem_cons.mpr ⟨⟨_, receipt?_of_admission? hx, hlease, hid⟩, ih h⟩

/-- A receipt the search passed over is not retained. -/
theorem existingAdmission_eq_none {a : AuthenticatedVerifierReceiptV1}
    {trust : VerifierTrustStore} {t : ℕ} {retained : List EventV1} {q : MissionProjection}
    (h : reduceEvents P retained = .ok q) (hnone : existingAdmission P a trust t q = .ok none) :
    a.lease.leaseId ∉ q.final.consumedVerificationLeaseIds ∧
      a.receipt.receiptId ∉ q.final.admittedVerifierReceiptIds := by
  obtain ⟨first, rest, rfl, -, run⟩ := reduceEvents_eq_ok h
  have hother := existingAdmissionIn_eq_none hnone
  rw [(reduceLoop_records run).receipts] at hother
  have hretained : ∀ e ∈ first :: rest, ∀ r, e.receipt? = some r →
      r.leaseId ≠ a.lease.leaseId ∧ r.receiptId ≠ a.receipt.receiptId := by
    intro e he r hr
    have hk : e.kind = .verifierReceiptAdmitted := by
      unfold EventV1.receipt? at hr
      split at hr
      · rename_i hp
        simp [EventBody.kind, hp, Payload.kind]
      · simp at hr
    obtain ⟨x, hx, hne⟩ := hother e (List.mem_filter.mpr ⟨he, by simp [hk]⟩)
    obtain rfl := Option.some.inj (hr.symm.trans hx)
    exact hne
  constructor
  · intro hi
    obtain ⟨e, he, r, hr, hid⟩ := receipt_of_consumed run hi
    exact (hretained e he r hr).1 hid
  · rw [(reduceLoop_lookups run).receipts]
    rintro ⟨r, hr, hid⟩
    obtain ⟨e, he, hre⟩ := List.mem_filterMap.mp hr
    exact (hretained e he r hre).2 hid

/-- Outputs that a command resolved came out of their constructor. -/
theorem resolveNewOutputArtifacts_ends {a : AuthenticatedVerifierReceiptV1} {maximum : ℕ}
    {outputs : VerificationOutputArtifactsV1} {s s' : S}
    (h : Ends H s (resolveNewOutputArtifacts a maximum) (.ok outputs) s') :
    outputs.construct = .ok outputs := by
  obtain ⟨-, h⟩ := ends_check_bind.mp h
  obtain ⟨data, s₁, -, h⟩ := ends_bind_ok.mp h
  obtain ⟨h, -⟩ := ends_ofExcept.mp h
  obtain ⟨z, -, h⟩ := bind_eq_ok.mp h
  obtain ⟨bindings, -, h⟩ := bind_eq_ok.mp h
  split at h
  · have hconstruct := mapError_eq_ok.mp h
    obtain ⟨h₁, hrest⟩ := unit_bind_eq_ok.mp hconstruct
    obtain ⟨h₂, hrest⟩ := unit_bind_eq_ok.mp hrest
    obtain ⟨h₃, hrest⟩ := unit_bind_eq_ok.mp hrest
    obtain rfl := Except.ok.inj hrest
    exact hconstruct
  · simp at h

/-- What `admit_modeled_fixture_verifier_receipt` checks before it looks for an earlier event,
but for the disposition of the lease. -/
structure AdmitContext (P : Primitives) (r : AdmitRequest) (q : MissionProjection)
    (lease : VerificationLeaseV1) (resolution : VerificationArtifactResolutionV1)
    (a : AuthenticatedVerifierReceiptV1) : Prop where
  found : leaseById q r.verificationLeaseId = .ok lease
  candidate : assertCandidateRetained q lease.candidateId = .ok ()
  resolved : artifactResolutionOf q r.verificationLeaseId = .ok resolution
  authenticated : authenticateVerifierReceipt P r.signedReceipt r.decisionTrustStore lease
    resolution r.decisionTime = .ok a

/-- What `admit_modeled_fixture_verifier_receipt` checked when it proposes. -/
structure AdmitDraft (P : Primitives) (r : AdmitRequest) (retained : List EventV1)
    (q : MissionProjection) (p : Proposal) (lease : VerificationLeaseV1)
    (resolution : VerificationArtifactResolutionV1) (a : AuthenticatedVerifierReceiptV1)
    (grant : AuthorityGrantV1) (admission : AuthorityAdmissionV1)
    (outputs : VerificationOutputArtifactsV1) : Prop
    extends AdmitContext P r q lease resolution a where
  disposition : r.verificationLeaseId ∈ q.final.activeVerificationLeaseIds ∨
    r.verificationLeaseId ∈ q.final.consumedVerificationLeaseIds
  existing : existingAdmission P a r.decisionTrustStore r.decisionTime q = .ok none
  phase : q.final.phase = .awaitingVerification
  head : assertHead retained r.expectedHead r.decisionTime "receipt admission time" = .ok ()
  authority : authorityEvidence q "receipt admission requires" = .ok (grant, admission)
  constructed : outputs.construct = .ok outputs
  bytes : resolution.totalBytes + outputs.totalBytes ≤ grant.maxBytes
  created : createEvent P retained q r.decisionTime (.verifierReceiptAdmitted
    receiptAdmissionProfileV1 r.decisionTrustStore (P.trustSnapshotId r.decisionTrustStore)
      a.signedReceipt outputs) = .ok p.event
  lookup : p.existing = existingAdmission P a r.decisionTrustStore r.decisionTime
  committed : p.committed = fun c =>
    committedOutcome c.final.verificationReceiptAdmissionEvents c p.event
      "receipt admission event" fun x => do
        let (_, _, _, _, committed) ← orRefuse x.admission? (.raised "event has no receipt")
        return .admission a committed

/-- A draft of an admission found the event of an earlier call, or proposes. -/
theorem draftAdmit_ends {r : AdmitRequest} {retained : List EventV1} {q : MissionProjection}
    {d : Draft} {s s' : S} (h : Ends H s (draftAdmit P r retained q) (.ok d) s') :
    ∃ lease resolution a, AdmitContext P r q lease resolution a ∧
      ((∃ o, d = .replay o ∧
          existingAdmission P a r.decisionTrustStore r.decisionTime q = .ok (some o)) ∨
        ∃ p grant admission outputs, d = .propose p ∧
          AdmitDraft P r retained q p lease resolution a grant admission outputs) := by
  obtain ⟨lease, hlease, h⟩ := ends_ofExcept_bind.mp h
  obtain ⟨hcandidate, h⟩ := ends_check_bind.mp h
  obtain ⟨hdisposition, h⟩ := ends_check_bind.mp h
  obtain ⟨resolution, hresolution, h⟩ := ends_ofExcept_bind.mp h
  obtain ⟨a, ha, h⟩ := ends_ofExcept_bind.mp h
  have hcontext : AdmitContext P r q lease resolution a :=
    ⟨hlease, hcandidate, hresolution, mapError_eq_ok.mp ha⟩
  refine ⟨lease, resolution, a, hcontext, ?_⟩
  obtain ⟨existing, hexisting, h⟩ := ends_ofExcept_bind.mp h
  cases existing with
  | some o =>
    obtain ⟨hd, -⟩ := ends_pure.mp h
    exact .inl ⟨o, Except.ok.inj hd, hexisting⟩
  | none =>
    obtain ⟨-, h⟩ := ends_check_bind.mp h
    obtain ⟨hphase, h⟩ := ends_check_bind.mp h
    obtain ⟨hhead, h⟩ := ends_check_bind.mp h
    obtain ⟨⟨grant, admission⟩, hauthority, h⟩ := ends_ofExcept_bind.mp h
    obtain ⟨-, h⟩ := ends_check_bind.mp h
    obtain ⟨outputs, s₁, houtputs, h⟩ := ends_bind_ok.mp h
    obtain ⟨hbytes, h⟩ := ends_check_bind.mp h
    obtain ⟨e, he, h⟩ := ends_ofExcept_bind.mp h
    simp only [refuseIf_eq_ok, not_not, not_lt, not_and_or] at hdisposition hphase hbytes
    obtain ⟨hp, -⟩ := ends_pure.mp h
    obtain rfl := Except.ok.inj hp
    exact .inr ⟨_, grant, admission, outputs, rfl, hcontext, hdisposition, hexisting, hphase,
      hhead, hauthority, resolveNewOutputArtifacts_ends houtputs, hbytes, he, rfl, rfl⟩

theorem draftAdmit_propose {r : AdmitRequest} {retained : List EventV1} {q : MissionProjection}
    {p : Proposal} {s s' : S} (h : Ends H s (draftAdmit P r retained q) (.ok (.propose p)) s') :
    ∃ lease resolution a grant admission outputs,
      AdmitDraft P r retained q p lease resolution a grant admission outputs := by
  obtain ⟨lease, resolution, a, -, ⟨o, hp, -⟩ | ⟨p', grant, admission, outputs, hp, hdraft⟩⟩ :=
    draftAdmit_ends h
  · simp at hp
  · obtain rfl := Draft.propose.inj hp
    exact ⟨lease, resolution, a, grant, admission, outputs, hdraft⟩

theorem applyVerifierReceiptAdmitted_ok {s : Reduction} {e : EventV1}
    {trust : VerifierTrustStore} {signed : SignedVerifierReceiptV1}
    {outputs : VerificationOutputArtifactsV1} {lease : VerificationLeaseV1}
    {resolution : VerificationArtifactResolutionV1} {a : AuthenticatedVerifierReceiptV1}
    {grant : AuthorityGrantV1}
    (hlease : s.verificationLeasesById.lookup signed.receipt.leaseId = some lease)
    (hunused : signed.receipt.leaseId ∉ s.consumedVerificationLeaseIds)
    (hlatest : lease.leaseId ∈ s.activeVerificationLeaseIds ∧
      s.latestVerificationLeaseByCandidate.lookup lease.candidateId = some lease.leaseId)
    (hresolution : s.verificationResolutionsByLeaseId.lookup signed.receipt.leaseId =
      some resolution)
    (hfresh : signed.receipt.receiptId ∉ s.admittedVerifierReceiptIds)
    (hauthenticated : authenticateVerifierReceipt P signed trust lease resolution e.decisionTime =
      .ok a)
    (houtputs : outputs.construct = .ok outputs) (hsame : ¬outputsDiffer outputs signed.receipt)
    (hgrant : s.admittedGrant = some grant)
    (hbytes : resolution.totalBytes + outputs.totalBytes ≤ grant.maxBytes) :
    ∃ t, applyVerifierReceiptAdmitted P s e receiptAdmissionProfileV1 trust
      (P.trustSnapshotId trust) signed outputs = .ok t := by
  have ha := authenticateVerifierReceipt_eq hauthenticated
  obtain ⟨hactive, hlatest⟩ := hlatest
  rw [applyVerifierReceiptAdmitted, refuseIf_bind_of_not (not_not.mpr rfl),
    bind_of_ok (orRefuse_eq_ok.mpr hlease), refuseIf_bind_of_not hunused,
    refuseIf_bind_of_not (not_or.mpr ⟨not_not.mpr hactive, not_not.mpr hlatest⟩),
    bind_of_ok (orRefuse_eq_ok.mpr hresolution), refuseIf_bind_of_not hfresh,
    bind_of_ok (mapError_eq_ok.mpr hauthenticated), bind_of_ok (mapError_eq_ok.mpr houtputs),
    refuseIf_bind_of_not (not_not.mpr (by rw [ha])),
    refuseIf_bind_of_not (by rw [ha]; exact hsame), bind_of_ok (orRefuse_eq_ok.mpr hgrant),
    refuseIf_bind_of_not (not_lt.mpr hbytes)]
  exact ⟨_, rfl⟩

theorem draftAdmit_drafted {r : AdmitRequest} {retained : List EventV1} {q : MissionProjection}
    {p : Proposal} {s s' : S} (h : reduceEvents P retained = .ok q)
    (hd : Ends H s (draftAdmit P r retained q) (.ok (.propose p)) s') : Drafted P q p.event := by
  obtain ⟨lease, resolution, a, grant, admission, outputs, hdraft⟩ := draftAdmit_propose hd
  refine .of_created h hdraft.created hdraft.head
    (by rw [hdraft.phase]; exact Option.some_ne_none _) ?_
  obtain ⟨hnext, hverify⟩ := createEvent_eq_ok h hdraft.created
  obtain ⟨hgrant, -, -⟩ := authorityEvidence_eq_ok h hdraft.authority
  obtain ⟨hlookup, hid, -⟩ := leaseById_eq_ok h hdraft.found
  have ha := authenticateVerifierReceipt_eq hdraft.authenticated
  obtain ⟨-, -, hlease, -⟩ := authenticateVerifierReceipt_inv P hdraft.authenticated
  obtain ⟨hunused, hfresh⟩ := existingAdmission_eq_none h hdraft.existing
  simp only [ha, AuthenticatedVerifierReceiptV1.receipt] at hunused hfresh
  -- The lease is active : a consumed one has a retained receipt.
  have hactive : r.verificationLeaseId ∈ q.final.activeVerificationLeaseIds :=
    hdraft.disposition.resolve_right (hid ▸ hunused)
  have hlatest := latest_of_leaseById h hdraft.found hactive
  have hresolution : q.final.verificationResolutionsByLeaseId.lookup r.verificationLeaseId =
      some resolution := by
    obtain ⟨x, hx, hreturn⟩ := bind_eq_ok.mp hdraft.resolved
    cases x with
    | none => simp [reject] at hreturn
    | some x =>
      obtain rfl := Except.ok.inj hreturn
      exact (existingResolution_eq_some h hx).1
  have hsame : ¬outputsDiffer outputs r.signedReceipt.receipt := by
    rw [hnext] at hverify
    simp only [EventV1.verify, validatePayload, unit_bind_eq_ok, nextEvent_payload,
      refuseIf_eq_ok] at hverify
    have hdiffer := hverify.2.1.2.2.2
    rw [ha] at hdiffer
    exact hdiffer
  have hname : r.signedReceipt.receipt.leaseId = r.verificationLeaseId := hlease.trans hid
  rw [hnext, ha]
  exact applyVerifierReceiptAdmitted_ok (hname ▸ hlookup) (hlease ▸ hunused)
    ⟨hid.symm ▸ hactive, hid.symm ▸ hlatest⟩ (hname ▸ hresolution) hfresh hdraft.authenticated
    hdraft.constructed hsame hgrant hdraft.bytes

/-! ## A sample command -/

/-- The wire layer of the sample commands : the id of a lease follows its issue time. -/
def sampleCommandEnv : CommandEnv where
  leaseId l := if l.issuedAt = 20 then 401 else 402
  leaseRepresentable _ := true
  resolutionId _ := 112
  resolutionRepresentable _ := true
  normalizedPath _ := true
  evidenceDigest _ := 106
  fixtureManifest _ := some (4, 106)

/-- Primitives that check the ids of leases and tell the sample leases apart by their nonces. -/
def sampleCommandPrimitives : Primitives :=
  { samplePrimitives with
    leaseNonce := fun x => if x.issuedAt = 20 then 7 else 8
    wellFormed := fun b => match b.payload with
      | .verificationLeaseIssued l _ _ => l.leaseId = sampleCommandEnv.leaseId l.content
      | .verificationLeaseReassigned l _ _ _ _ => l.leaseId = sampleCommandEnv.leaseId l.content
      | _ => true }

theorem sampleCommandPrimitives_leaseWire :
    LeaseWire sampleCommandPrimitives sampleCommandEnv where
  leaseId e he l hl := by
    simp only [sampleCommandPrimitives] at he
    unfold EventV1.createdLease? at hl
    split at hl <;> simp_all

/-- A sample lease with an evidence artifact, and the nonce of its issue time. -/
def sampleDerived (id : Digest) (verifier : String) (key : Digest) (issuedAt : ℕ)
    (nonce : BitVec 128) : VerificationLeaseV1 :=
  { sampleLease id verifier key issuedAt with
    leaseNonce := nonce, evidenceArtifactDigests := [114] }

/-- The sample mission up to its first lease. -/
def sampleAssigned : List EventV1 :=
  sampleMission.take 5 ++ [sampleEvent 5 20
    (.verificationLeaseIssued (sampleDerived 401 "first" 201 20 7) sampleTrust 20)]

/-- The reassignment of the first sample lease to the second verifier. -/
def sampleReassign : ReassignRequest where
  missionId := 100
  expectedHead := 6
  predecessorVerificationLeaseId := 401
  verifierKeyId := ⟨202⟩
  verifierTrustStore := sampleTrust
  decisionTime := 30
  requestedWallclockSeconds := 60

/-- What `sampleReassign` drafts. -/
def sampleReassigned : EventV1 :=
  sampleEvent 6 30 (.verificationLeaseReassigned (sampleDerived 402 "second" 202 30 8) 401
    .activeLeaseSuperseded sampleTrust 20)

/-- The event of a draft. -/
def Draft.event : Draft → EventV1
  | .replay o => o.event
  | .propose p => p.event

theorem sampleReassign_drafts : ∃ q p,
    reduceEvents sampleCommandPrimitives sampleAssigned = .ok q ∧
      draftReassign sampleCommandPrimitives sampleCommandEnv sampleReassign sampleAssigned q =
        .ok (.propose p) ∧ p.event = sampleReassigned := by
  have h : ((reduceEvents sampleCommandPrimitives sampleAssigned).toOption.bind fun q =>
      (draftReassign sampleCommandPrimitives sampleCommandEnv sampleReassign sampleAssigned
        q).toOption.map fun d =>
          (d.event, match d with | .replay _ => false | .propose _ => true)) =
      some (sampleReassigned, true) := by decide +kernel
  cases hq : reduceEvents sampleCommandPrimitives sampleAssigned with
  | error m => simp [hq, Except.toOption] at h
  | ok q =>
    cases hd : draftReassign sampleCommandPrimitives sampleCommandEnv sampleReassign
        sampleAssigned q with
    | error m => simp [hq, hd, Except.toOption] at h
    | ok d =>
      cases d with
      | replay o => simp [hq, hd, Except.toOption] at h
      | propose p =>
        simp only [hq, hd, Except.toOption, Option.bind_some, Option.map_some, Option.some.injEq,
          Prod.mk.injEq, and_true] at h
        exact ⟨q, p, rfl, hd, h⟩

theorem sampleReassigned_collisionFree :
    CollisionFree sampleCommandPrimitives sampleCommandEnv
      (sampleAssigned ++ [sampleReassigned]) where
  events := by decide +kernel
  nonces := by
    have h : ∀ a ∈ sampleAssigned ++ [sampleReassigned], ∀ b ∈ sampleAssigned ++ [sampleReassigned],
        ∀ k ∈ a.createdLease?.toList, ∀ l ∈ b.createdLease?.toList,
          sampleCommandPrimitives.leaseNonce (k.nonceInputs a.prevDigest) =
            sampleCommandPrimitives.leaseNonce (l.nonceInputs b.prevDigest) →
          k.nonceInputs a.prevDigest = l.nonceInputs b.prevDigest := by decide +kernel
    exact fun a ha b hb k l hk hl => h a ha b hb k (by simp [hk]) l (by simp [hl])
  leaseIds := by decide +kernel

/-! ## The seven commands -/

/-- The lease an event creates does not occur in the trust snapshot it was derived from. -/
def EventV1.Unrevoked (e : EventV1) : Prop :=
  ∀ lease trust id, e.leaseGrant? = some (lease, trust, id) →
    lease.leaseId ∉ trust.revokedLeaseIds

/-- Every draft of a command is drafted. -/
theorem draft_drafted (hW : LeaseWire P W) {c : VerificationCommand} {retained : List EventV1}
    {q : MissionProjection} {p : Proposal} {s s' : S} (h : reduceEvents P retained = .ok q)
    (hd : Ends H s (c.draft P W retained q) (.ok (.propose p)) s')
    (hfree : CollisionFree P W (retained ++ [p.event])) (hrevoked : p.event.Unrevoked) :
    Drafted P q p.event := by
  cases c with
  | issue r => exact draftIssue_drafted hW h (ends_ofExcept.mp hd).1 hfree
  | expire r => exact draftExpire_drafted h (ends_ofExcept.mp hd).1
  | cancel r reasonCode => exact draftCancel_drafted h (ends_ofExcept.mp hd).1
  | reassign r => exact draftReassign_drafted hW h (ends_ofExcept.mp hd).1 hfree hrevoked
  | resolve r => exact draftResolve_drafted h hd
  | admitReceipt r => exact draftAdmit_drafted h hd
  | close r => exact draftClose_drafted h (ends_ofExcept.mp hd).1

/-- `reduce_events` of an accepted stream is no step of a program. -/
theorem reduced_of_ok {events : List EventV1} {q : MissionProjection}
    (h : reduceEvents P events = .ok q) : reduced P events = Prog.done (.ok q) := by
  rw [reduced, h]
  rfl

/-- **Commands refine the reducer.** What a command drafts on an accepted stream, the reducer
accepts ; so the defensive `reduce_events` of a command changes none of its runs. -/
theorem commands_refine_reducer (hW : LeaseWire P W) {retained : List EventV1}
    {q : MissionProjection} (h : reduceEvents P retained = .ok q) (c : VerificationCommand)
    (s : S) :
    (∀ p s', Ends H s (c.draft P W retained q) (.ok (.propose p)) s' →
      CollisionFree P W (retained ++ [p.event]) → p.event.Unrevoked →
      ∃ q', reduceEvents P (retained ++ [p.event]) = .ok q') ∧
    ((∀ p s', Ends H s (c.draft P W retained q) (.ok (.propose p)) s' →
        CollisionFree P W (retained ++ [p.event]) ∧ p.event.Unrevoked) →
      ∀ r s', Ends H s (c.prepare P W retained) r s' ↔ Ends H s (c.draft P W retained q) r s') := by
  have haccepted : ∀ p s', Ends H s (c.draft P W retained q) (.ok (.propose p)) s' →
      CollisionFree P W (retained ++ [p.event]) → p.event.Unrevoked →
      ∃ q', reduceEvents P (retained ++ [p.event]) = .ok q' := fun p s' hd hfree hrevoked =>
    (draft_drafted hW h hd hfree hrevoked).accepted h
  refine ⟨haccepted, fun hassumed r s' => ?_⟩
  rw [VerificationCommand.prepare, reduced_of_ok h]
  change Ends H s (c.draft P W retained q >>= _) r s' ↔ _
  rw [ends_bind]
  constructor
  · rintro (⟨d, s₁, hd, hrest⟩ | ⟨e, rfl, hd⟩)
    · cases d with
      | replay o =>
        obtain ⟨rfl, rfl⟩ := ends_pure.mp hrest
        exact hd
      | propose p =>
        obtain ⟨hfree, hrevoked⟩ := hassumed p s₁ hd
        obtain ⟨q', hq'⟩ := haccepted p s₁ hd hfree hrevoked
        dsimp only at hrest
        rw [reduced_of_ok hq'] at hrest
        obtain ⟨rfl, rfl⟩ := ends_done.mp hrest
        exact hd
    · exact hd
  · intro hd
    cases r with
    | error e => exact .inr ⟨e, rfl, hd⟩
    | ok d =>
      refine .inl ⟨d, s', hd, ?_⟩
      cases d with
      | replay o => exact .done
      | propose p =>
        obtain ⟨hfree, hrevoked⟩ := hassumed p s' hd
        obtain ⟨q', hq'⟩ := haccepted p s' hd hfree hrevoked
        dsimp only
        rw [reduced_of_ok hq']
        exact .done

/-- The event of a reassignment extends the stream it was prepared on. -/
theorem commands_refine_reducer_sample :
    (∃ q, reduceEvents sampleCommandPrimitives sampleAssigned = .ok q) ∧
    ∃ q', reduceEvents sampleCommandPrimitives (sampleAssigned ++ [sampleReassigned]) = .ok q' := by
  obtain ⟨q, p, hq, hd, hp⟩ := sampleReassign_drafts
  have hreassigned := (commands_refine_reducer (H := fun _ _ _ _ _ => False)
    sampleCommandPrimitives_leaseWire hq (.reassign sampleReassign) ()).1 p ()
    (ends_ofExcept.mpr ⟨hd, rfl⟩)
  rw [hp] at hreassigned
  refine ⟨⟨q, hq⟩, hreassigned sampleReassigned_collisionFree fun lease trust id hlease => ?_⟩
  obtain ⟨-, rfl, -⟩ : _ ∧ sampleTrust = trust ∧ _ := by
    simpa [sampleReassigned, sampleEvent, EventV1.leaseGrant?] using hlease
  exact List.not_mem_nil

end Etzio
