import Etzio.StoreCapacity
import Etzio.StoreStreams

/-!
# Ownership in the evidence vault

A protected append inserts its artifacts, then their roles, then its event, and reads the
whole manifest back before it commits. An artifact is inserted only when its identity is
free, so it belongs to the event that was appended with it, and later events, of any
mission, share it through roles of their own.

`VaultOwned` is what holds of every state of every run (`Sys.Reachable.vaultOwned`) : the
roles of an event are its derived manifest with the sizes that were observed
(`EvidenceVault.Manifests`), an artifact is retained once with bytes that hash to its
digest, and its origin is the first event that claims it (`Tables.Origin`).
-/

open CheckedRun Rows

namespace Etzio

section Vault

variable {digestBytesV1 : VaultScheme → List UInt8 → Digest} {v v' v'' : EvidenceVault}
  {d x : Digest} {e : EventV1} {i : VaultIdentity} {n : Option ℕ} {data : List UInt8}
  {missing : StoreError}

/-! ## Artifacts -/

/-- The bytes of an artifact are within the bound and hash to its digest in the domain of
its scheme. -/
structure VaultArtifactRow.Sound (digestBytesV1 : VaultScheme → List UInt8 → Digest)
    (a : VaultArtifactRow) : Prop where
  size : a.content.length = a.byteSize
  bound : a.byteSize ≤ maxVaultArtifactBytesV1
  hashes : digestBytesV1 a.identity.scheme a.content = a.identity.digest

theorem artifactRow_eq_ok {o : Option VaultArtifactRow} : artifactRow v i = .ok o ↔
    findBy VaultArtifactRow.identity i v.artifacts = o ∧
      ∀ a ∈ o, a.byteSize ≤ maxVaultArtifactBytesV1 := by
  unfold artifactRow
  rw [unit_bind_eq_ok, refuseIf_eq_ok]
  push Not
  constructor
  · rintro ⟨hbound, h⟩
    obtain rfl := Except.ok.inj h
    exact ⟨rfl, hbound⟩
  · rintro ⟨rfl, hbound⟩
    exact ⟨hbound, rfl⟩

/-- A read returns the bytes of a sound artifact. -/
theorem readVaultIdentity_eq_ok : readVaultIdentity digestBytesV1 missing v i n = .ok data ↔
    ∃ a, findBy VaultArtifactRow.identity i v.artifacts = some a ∧ (∀ k ∈ n, a.byteSize = k) ∧
      a.Sound digestBytesV1 ∧ a.content = data := by
  unfold readVaultIdentity
  constructor
  · intro h
    obtain ⟨o, ho, h⟩ := bind_eq_ok.mp h
    obtain ⟨hfind, hbound⟩ := artifactRow_eq_ok.mp ho
    obtain ⟨a, rfl, h⟩ := orRefuse_bind_eq_ok.mp h
    obtain ⟨hsize, h⟩ := unit_bind_eq_ok.mp h
    obtain ⟨hlen, h⟩ := unit_bind_eq_ok.mp h
    obtain ⟨hhash, h⟩ := unit_bind_eq_ok.mp h
    rw [refuseIf_eq_ok] at hsize hlen hhash
    push Not at hsize hlen hhash
    have hkey := key_of_findBy hfind
    exact ⟨a, hfind, hsize, ⟨hlen, hbound a rfl, by rw [hkey]; exact hhash⟩, Except.ok.inj h⟩
  · rintro ⟨a, hfind, hsize, hsound, rfl⟩
    have hkey := key_of_findBy hfind
    have hrow : artifactRow v i = .ok (some a) :=
      artifactRow_eq_ok.mpr ⟨hfind, fun b hb => Option.some.inj hb ▸ hsound.bound⟩
    have hhash : ¬digestBytesV1 i.scheme a.content ≠ i.digest := by
      rw [← hkey, not_not]
      exact hsound.hashes
    rw [bind_of_ok hrow, orRefuse_some_bind, refuseIf_bind_of_not (by push Not; exact hsize),
      refuseIf_bind_of_not (not_not.mpr hsound.size), refuseIf_bind_of_not hhash]
    rfl

/-! ## Growth for one event -/

/-- `v'` is `v` with sound artifacts of origin `d` and roles of event `d` added. -/
structure EvidenceVault.Grows (digestBytesV1 : VaultScheme → List UInt8 → Digest) (d : Digest)
    (v v' : EvidenceVault) : Prop where
  artifacts : Appends (fun a => a.originEventDigest = d ∧ a.Sound digestBytesV1) v.artifacts
    v'.artifacts
  roles : Appends (fun r => r.eventDigest = d ∧ r.identity.scheme = r.role.scheme) v.roles
    v'.roles
  once : (v.artifacts.map VaultArtifactRow.identity).Nodup →
    (v'.artifacts.map VaultArtifactRow.identity).Nodup

namespace EvidenceVault

theorem Grows.refl : Grows digestBytesV1 d v v := ⟨Appends.refl, Appends.refl, id⟩

theorem Grows.trans (h : Grows digestBytesV1 d v v') (h' : Grows digestBytesV1 d v' v'') :
    Grows digestBytesV1 d v v'' :=
  ⟨h.artifacts.trans h'.artifacts, h.roles.trans h'.roles, h'.once ∘ h.once⟩

/-- The roles of another event are the roles they were. -/
theorem Grows.rolesOf_eq (h : Grows digestBytesV1 d v v') (hx : x ≠ d) :
    v'.rolesOf x = v.rolesOf x := by
  rw [rolesOf, rolesOf, h.roles.filter_eq]
  rintro r ⟨hr, -⟩
  simpa [hr] using hx.symm

/-- A retained artifact stays the artifact of its identity. -/
theorem Grows.findBy_eq (h : Grows digestBytesV1 d v v') {a : VaultArtifactRow}
    (ha : findBy VaultArtifactRow.identity i v.artifacts = some a) :
    findBy VaultArtifactRow.identity i v'.artifacts = some a := by
  rw [h.artifacts.findBy_of_isSome (by rw [ha]; rfl), ha]

end EvidenceVault

/-! ## Manifests -/

theorem VaultArtifactRefV1.construct_eq {a b : VaultArtifactRefV1} (h : a.construct = .ok b) :
    b = a := by
  unfold VaultArtifactRefV1.construct at h
  simp only [unit_bind_eq_ok] at h
  obtain ⟨-, -, -, -, -, -, -, -, h⟩ := h
  exact (Except.ok.inj h).symm

/-- A size that is observed fills in the size, or is the size that was declared. -/
theorem VaultArtifactRefV1.withObservedSize_eq {a b : VaultArtifactRefV1} {size : ℕ}
    (h : a.withObservedSize size = .ok b) :
    b = { a with byteSize := some size } ∧ b.construct = .ok b := by
  unfold VaultArtifactRefV1.withObservedSize at h
  obtain ⟨-, h⟩ := unit_bind_eq_ok.mp h
  obtain ⟨-, h⟩ := unit_bind_eq_ok.mp h
  have hb := VaultArtifactRefV1.construct_eq h
  exact ⟨hb, hb ▸ h⟩

/-- The role of an expected artifact : its reference with the size that was observed. -/
def RoleOf (e : EventV1) (a : VaultArtifactRefV1) (r : ArtifactRoleRow) : Prop :=
  ∃ resolved, a.withObservedSize r.byteSize = .ok resolved ∧
    EvidenceVault.roleRow e resolved = some r

/-- The roles of an event are its derived manifest with observed sizes, and each names a
sound artifact of its size. -/
structure EvidenceVault.Manifests (digestBytesV1 : VaultScheme → List UInt8 → Digest)
    (v : EvidenceVault) (e : EventV1) : Prop where
  derived : ∃ expected, deriveEventArtifactManifestV1 e = .ok expected ∧
    List.Forall₂ (RoleOf e) expected (v.rolesOf e.eventDigest)
  retained : ∀ r ∈ v.rolesOf e.eventDigest, ∃ a,
    findBy VaultArtifactRow.identity r.identity v.artifacts = some a ∧ a.byteSize = r.byteSize ∧
      a.Sound digestBytesV1

/-- The stored reference of a role. -/
def ArtifactRoleRow.ref (r : ArtifactRoleRow) : VaultArtifactRefV1 :=
  ⟨r.slot, r.role, r.ordinal, r.locator, r.identity, some r.byteSize⟩

theorem RoleOf.spec {a : VaultArtifactRefV1} {r : ArtifactRoleRow} (h : RoleOf e a r) :
    a.withObservedSize r.byteSize = .ok r.ref ∧ r.ref.construct = .ok r.ref ∧
      r.eventDigest = e.eventDigest ∧ r.eventKind = e.kind := by
  obtain ⟨resolved, hsize, hrow⟩ := h
  obtain ⟨hres, hcons⟩ := VaultArtifactRefV1.withObservedSize_eq hsize
  rw [hres] at hrow
  have hfields := Option.some.inj hrow
  have href : resolved = r.ref := hres.trans (congrArg ArtifactRoleRow.ref hfields)
  exact ⟨href ▸ hsize, href ▸ hcons, (congrArg ArtifactRoleRow.eventDigest hfields).symm,
    (congrArg ArtifactRoleRow.eventKind hfields).symm⟩

theorem roleOf_iff {a : VaultArtifactRefV1} {r : ArtifactRoleRow} : RoleOf e a r ↔
    a.withObservedSize r.byteSize = .ok r.ref ∧ r.eventDigest = e.eventDigest ∧
      r.eventKind = e.kind := by
  constructor
  · intro h
    obtain ⟨hsize, -, hd, hk⟩ := h.spec
    exact ⟨hsize, hd, hk⟩
  · rintro ⟨hsize, hd, hk⟩
    refine ⟨r.ref, hsize, ?_⟩
    rw [EvidenceVault.roleRow, ← hd, ← hk]
    rfl

/-- The stored manifest of an event is the references of its roles. -/
theorem storedEventManifest_eq_ok {stored : List (EventKind × VaultArtifactRefV1)} :
    storedEventManifest v d = .ok stored ↔
      (∀ r ∈ v.rolesOf d, r.ref.construct = .ok r.ref) ∧
        stored = (v.rolesOf d).map fun r => (r.eventKind, r.ref) := by
  unfold storedEventManifest
  rw [mapM_eq_ok]
  generalize v.rolesOf d = rows
  induction rows generalizing stored with
  | nil => simp
  | cons r rows ih =>
    rw [List.forall₂_cons_left_iff]
    constructor
    · rintro ⟨y, rest, hr, hrest, rfl⟩
      obtain ⟨ref, href, hy⟩ := bind_eq_ok.mp hr
      rw [mapError_eq_ok] at href
      obtain rfl := VaultArtifactRefV1.construct_eq href
      obtain ⟨hall, rfl⟩ := ih.mp hrest
      exact ⟨List.forall_mem_cons.mpr ⟨href, hall⟩, by
        rw [List.map_cons, ← Except.ok.inj hy]
        rfl⟩
    · rintro ⟨hall, rfl⟩
      obtain ⟨hr, hall⟩ := List.forall_mem_cons.mp hall
      exact ⟨_, _, bind_eq_ok.mpr ⟨r.ref, mapError_eq_ok.mpr hr, rfl⟩, ih.mpr ⟨hall, rfl⟩, rfl⟩

/-- The derived references with the sizes of the roles are the references of the roles. -/
theorem resolveExpected_eq_ok {expected : List VaultArtifactRefV1} {rows : List ArtifactRoleRow}
    (hd : ∀ r ∈ rows, r.eventDigest = e.eventDigest) :
    (expected.zip (rows.map fun r => (r.eventKind, r.ref))).mapM (resolveExpected e) =
        .ok (rows.map ArtifactRoleRow.ref) ∧ rows.length = expected.length ↔
      List.Forall₂ (RoleOf e) expected rows := by
  rw [mapM_eq_ok]
  induction expected generalizing rows with
  | nil => cases rows <;> simp
  | cons a expected ih =>
    cases rows with
    | nil => simp
    | cons r rows =>
      obtain ⟨hr, hrows⟩ := List.forall_mem_cons.mp hd
      have hhead : resolveExpected e (a, r.eventKind, r.ref) = .ok r.ref ↔ RoleOf e a r := by
        unfold resolveExpected
        rw [unit_bind_eq_ok, orRefuse_bind_eq_ok, roleOf_iff, refuseIf_eq_ok, not_not]
        constructor
        · rintro ⟨hk, size, hsize, h⟩
          rw [← Option.some.inj hsize, mapError_eq_ok] at h
          exact ⟨h, hr, hk⟩
        · rintro ⟨h, -, hk⟩
          exact ⟨hk, r.byteSize, rfl, mapError_eq_ok.mpr h⟩
      simp only [List.map_cons, List.zip_cons_cons, List.forall₂_cons, List.length_cons,
        Nat.add_right_cancel_iff, hhead, and_assoc, ih hrows]

theorem mem_rolesOf {r : ArtifactRoleRow} :
    r ∈ v.rolesOf d ↔ r ∈ v.roles ∧ r.eventDigest = d := by
  rw [EvidenceVault.rolesOf, mem_orderBy, List.mem_filter, decide_eq_true_iff]

theorem deriveEventArtifactManifestV1_unprotected (h : e.kind ∉ protectedEvidenceEventKindsV1) :
    deriveEventArtifactManifestV1 e = .ok [] := by
  rw [EventBody.kind] at h
  unfold deriveEventArtifactManifestV1
  split
  case h_5 => rfl
  all_goals
    rename_i hp
    rw [hp] at h
    simp [Payload.kind, protectedEvidenceEventKindsV1] at h

/-- The check of a retained manifest passes exactly for a manifest. -/
theorem verifyEventManifest_eq_ok : verifyEventManifest digestBytesV1 v e = .ok () ↔
    v.Manifests digestBytesV1 e := by
  have hdigest : ∀ r ∈ v.rolesOf e.eventDigest, r.eventDigest = e.eventDigest :=
    fun r hr => (mem_rolesOf.mp hr).2
  have hrefs : ((v.rolesOf e.eventDigest).map fun r => (r.eventKind, r.ref)).map Prod.snd =
      (v.rolesOf e.eventDigest).map ArtifactRoleRow.ref := by
    rw [List.map_map]
    rfl
  have hrehash (r : ArtifactRoleRow) : rehashArtifact digestBytesV1 v r.ref = .ok () ↔
      ∃ a, findBy VaultArtifactRow.identity r.identity v.artifacts = some a ∧
        a.byteSize = r.byteSize ∧ a.Sound digestBytesV1 := by
    unfold rehashArtifact
    rw [orRefuse_bind_eq_ok]
    constructor
    · rintro ⟨size, hsize, h⟩
      obtain ⟨data, hdata, -⟩ := bind_eq_ok.mp h
      obtain ⟨a, ha, hn, hsound, -⟩ := readVaultIdentity_eq_ok.mp hdata
      exact ⟨a, ha, (hn size rfl).trans (Option.some.inj hsize).symm, hsound⟩
    · rintro ⟨a, ha, hsize, hsound⟩
      refine ⟨r.byteSize, rfl, bind_eq_ok.mpr ⟨a.content, readVaultIdentity_eq_ok.mpr
        ⟨a, ha, ?_, hsound, rfl⟩, rfl⟩⟩
      rintro k hk
      rw [hsize]
      exact Option.some.inj hk
  unfold verifyEventManifest
  rw [bind_eq_ok]
  constructor
  · rintro ⟨expected, hexp, h⟩
    rw [mapError_eq_ok] at hexp
    obtain ⟨stored, hstored, h⟩ := bind_eq_ok.mp h
    obtain ⟨hcons, rfl⟩ := storedEventManifest_eq_ok.mp hstored
    split_ifs at h with hkind
    · obtain ⟨hlen, h⟩ := unit_bind_eq_ok.mp h
      obtain ⟨resolved, hres, h⟩ := bind_eq_ok.mp h
      obtain ⟨hsame, hrehashed⟩ := unit_bind_eq_ok.mp h
      rw [refuseIf_eq_ok, not_not] at hlen hsame
      rw [hrefs] at hsame hrehashed
      rw [List.length_map] at hlen
      subst hsame
      refine ⟨⟨expected, hexp, (resolveExpected_eq_ok hdigest).mp ⟨hres, hlen⟩⟩, fun r hr => ?_⟩
      exact (hrehash r).mp (forM_eq_ok.mp hrehashed r.ref (List.mem_map_of_mem hr))
    · rw [refuseIf_eq_ok, not_not, List.map_eq_nil_iff] at h
      refine ⟨⟨[], deriveEventArtifactManifestV1_unprotected hkind, ?_⟩, ?_⟩
      · rw [h]
        exact .nil
      · rw [h]
        exact fun r hr => absurd hr List.not_mem_nil
  · rintro ⟨⟨expected, hexp, hroles⟩, hretained⟩
    obtain ⟨hres, hlen⟩ := (resolveExpected_eq_ok hdigest).mpr hroles
    have hcons : ∀ r ∈ v.rolesOf e.eventDigest, r.ref.construct = .ok r.ref := by
      intro r hr
      obtain ⟨k, hk, rfl⟩ := List.getElem_of_mem hr
      have hk' : k < expected.length := hlen ▸ hk
      exact (List.Forall₂.get hroles hk' hk).spec.2.1
    refine ⟨expected, mapError_eq_ok.mpr hexp, bind_eq_ok.mpr ⟨_,
      storedEventManifest_eq_ok.mpr ⟨hcons, rfl⟩, ?_⟩⟩
    split_ifs with hkind
    · rw [hrefs, refuseIf_bind_of_not (by simpa using hlen), bind_of_ok hres,
        refuseIf_bind_of_not (by simp), forM_eq_ok]
      intro a ha
      obtain ⟨r, hr, rfl⟩ := List.mem_map.mp ha
      exact (hrehash r).mpr (hretained r hr)
    · have hderived := deriveEventArtifactManifestV1_unprotected hkind
      obtain rfl : [] = expected := Except.ok.inj (hderived.symm.trans hexp)
      rw [refuseIf_eq_ok, not_not, List.map_eq_nil_iff]
      exact List.forall₂_nil_left_iff.mp hroles

theorem verifyAppendedManifest_eq_ok : verifyAppendedManifest digestBytesV1 v e = .ok () ↔
    v.Manifests digestBytesV1 e ∧ ¬v.Orphaned := by
  rw [verifyAppendedManifest, unit_bind_eq_ok, refuseIf_eq_ok, verifyEventManifest_eq_ok]

/-- Growth for another event keeps a manifest. -/
theorem EvidenceVault.Grows.manifests (h : EvidenceVault.Grows digestBytesV1 d v v')
    (he : e.eventDigest ≠ d) (hm : v.Manifests digestBytesV1 e) :
    v'.Manifests digestBytesV1 e := by
  have hroles := h.rolesOf_eq he
  constructor
  · rw [hroles]
    exact hm.derived
  · rw [hroles]
    intro r hr
    obtain ⟨a, ha, hsize, hsound⟩ := hm.retained r hr
    exact ⟨a, h.findBy_eq ha, hsize, hsound⟩

/-! ## Retention -/

section Retention

variable {cap : ℕ} {staging : StagingStore}

theorem readStagedArtifact_identity {a resolved : VaultArtifactRefV1}
    (h : readStagedArtifact digestBytesV1 a staging = .ok (resolved, data)) :
    resolved.identity = a.identity := by
  unfold readStagedArtifact at h
  obtain ⟨maximum, -, h⟩ := orRefuse_bind_eq_ok.mp h
  obtain ⟨bytes, -, h⟩ := bind_eq_ok.mp h
  obtain ⟨r, hr, h⟩ := bind_eq_ok.mp h
  obtain ⟨-, h⟩ := unit_bind_eq_ok.mp h
  obtain ⟨rfl, -⟩ : r = resolved ∧ bytes = data := by simpa [pure, Except.pure] using h
  rw [mapError_eq_ok] at hr
  rw [(VaultArtifactRefV1.withObservedSize_eq hr).1]

/-- An artifact is retained already, or its identity was free and its bytes are sound. -/
theorem retainVaultArtifact_grows {s s' : Retention} {a : VaultArtifactRefV1}
    (h : retainVaultArtifact digestBytesV1 cap staging d s a = .ok s') :
    EvidenceVault.Grows digestBytesV1 d s.vault s'.vault := by
  unfold retainVaultArtifact at h
  obtain ⟨row, hrow, h⟩ := bind_eq_ok.mp h
  cases row with
  | some r =>
    obtain ⟨retained, -, h⟩ := bind_eq_ok.mp h
    obtain ⟨resolved, -, h⟩ := bind_eq_ok.mp h
    rw [← Except.ok.inj h]
    exact .refl
  | none =>
    obtain ⟨⟨resolved, staged⟩, hstaged, h⟩ := bind_eq_ok.mp h
    obtain ⟨size, -, h⟩ := orRefuse_bind_eq_ok.mp h
    obtain ⟨-, h⟩ := unit_bind_eq_ok.mp h
    obtain ⟨retained, hread, h⟩ := bind_eq_ok.mp h
    obtain ⟨-, h⟩ := unit_bind_eq_ok.mp h
    obtain rfl := Except.ok.inj h
    have hfree : ∀ b ∈ s.vault.artifacts, b.identity ≠ resolved.identity := by
      rw [readStagedArtifact_identity hstaged]
      exact findBy_eq_none.mp (artifactRow_eq_ok.mp hrow).1
    have hinsert : (s.vault.insertArtifact ⟨resolved.identity, size, d, staged⟩).1 =
        { s.vault with
          artifacts := s.vault.artifacts ++ [⟨resolved.identity, size, d, staged⟩] } := by
      rw [EvidenceVault.insertArtifact, if_neg (by push Not; exact hfree)]
    -- The row that was inserted is the one that was read back.
    obtain ⟨b, hb, -, hsound, -⟩ := readVaultIdentity_eq_ok.mp hread
    rw [hinsert] at hb
    have hself := findBy_append_self (f := VaultArtifactRow.identity)
      (a := ⟨resolved.identity, size, d, staged⟩) hfree
    obtain rfl := Option.some.inj (hself.symm.trans hb)
    dsimp only
    rw [hinsert]
    exact ⟨.snoc ⟨rfl, hsound⟩, .refl, fun hn => nodup_map_snoc hn hfree⟩

theorem insertEventArtifactRole_grows {a : VaultArtifactRefV1}
    (h : insertEventArtifactRole e v a = .ok v') :
    EvidenceVault.Grows digestBytesV1 e.eventDigest v v' := by
  unfold insertEventArtifactRole at h
  obtain ⟨row, hrow, h⟩ := orRefuse_bind_eq_ok.mp h
  rw [mapError_eq_ok] at h
  unfold EvidenceVault.insertRole at h
  obtain ⟨hcheck, h⟩ := unit_bind_eq_ok.mp h
  obtain ⟨-, h⟩ := unit_bind_eq_ok.mp h
  obtain ⟨-, h⟩ := unit_bind_eq_ok.mp h
  rw [refuseIf_eq_ok] at hcheck
  push Not at hcheck
  obtain ⟨size, -, rfl⟩ := Option.map_eq_some_iff.mp hrow
  rw [← Except.ok.inj h]
  exact ⟨.refl, .snoc ⟨rfl, hcheck.2.1⟩, id⟩

/-- Retention adds artifacts of its event, and roles of its event. -/
theorem retainEventArtifacts_grows
    (h : retainEventArtifacts digestBytesV1 cap v staging e = .ok v') :
    EvidenceVault.Grows digestBytesV1 e.eventDigest v v' := by
  unfold retainEventArtifacts at h
  obtain ⟨expected, -, h⟩ := bind_eq_ok.mp h
  obtain ⟨s, hs, h⟩ := bind_eq_ok.mp h
  have hartifacts : EvidenceVault.Grows digestBytesV1 e.eventDigest v s.vault :=
    foldlM_invariant (fun _ s => EvidenceVault.Grows digestBytesV1 e.eventDigest v s.vault) .refl
      (fun _ _ _ _ _ hi hstep => hi.trans (retainVaultArtifact_grows hstep)) hs
  exact foldlM_invariant (fun _ x => EvidenceVault.Grows digestBytesV1 e.eventDigest v x) hartifacts
    (fun _ _ _ _ _ hi hstep => hi.trans (insertEventArtifactRole_grows hstep)) h

/-- Without roles the triggers let only an ordinary event in. -/
theorem EvidenceVault.admitsEvent_unprotected {r : EventRow} (hroles : v.rolesOf r.digest = [])
    (h : v.admitsEvent r = .ok ()) : r.kind ∉ protectedEvidenceEventKindsV1 := by
  unfold admitsEvent countRole at h
  obtain ⟨-, h⟩ := unit_bind_eq_ok.mp h
  rw [hroles] at h
  intro hk
  rw [protectedEvidenceEventKindsV1] at hk
  simp only [List.mem_cons, List.not_mem_nil, or_false] at hk
  rcases hk with hk | hk | hk | hk
  all_goals
    rw [hk] at h
    simp at h

end Retention

end Vault

/-! ## What a transaction does to the vault -/

section Writes

variable {E : Env} {cap : ℕ} {t t' : E.Db} {d : Digest} {phase : EvidencePhase}
  {blobs : List ProviderEvidenceBlobV1} {rejected : String → StoreError}

theorem retainIntegrityEvidence_vault
    (h : retainIntegrityEvidence E rejected cap t d phase blobs = .ok t') :
    t'.vault = t.vault ∧ t'.events = t.events := by
  obtain ⟨as, ms, rfl, -⟩ := retainIntegrityEvidence_spec h
  exact ⟨rfl, rfl⟩

/-- A phase record leaves the vault and the events alone. -/
theorem PhaseCharged.vault {bytes : ℕ} (h : PhaseCharged cap d phase bytes t t') :
    t'.vault = t.vault ∧ t'.events = t.events := by
  obtain ⟨u, blobs, rejected, hu, h⟩ := h
  obtain ⟨hv, he⟩ := retainIntegrityEvidence_vault h
  cases hu <;> exact ⟨hv, he⟩

/-- What an append did to the vault and the events. -/
structure VaultAppended (cap : ℕ) (r : AppendRequest E) (t t' : E.Db) : Prop where
  events : t'.events = t.events ++ [.ofEvent r.event]
  fresh : ∀ y ∈ t.events, y.digest ≠ r.event.eventDigest
  retained : retainStaging E cap t r = .ok { t with vault := t'.vault }
  admitted : E.vaultAdmitsEvent t'.vault (.ofEvent r.event) = .ok ()
  verified : r.staging.isSome → E.verifyEventManifest t'.vault r.event = .ok ()
  foreignKeys : E.vaultForeignKeys t'.vault t'.events = true

theorem insertEvent_admits {row : EventRow} (h : insertEvent E t row = .ok t') :
    E.vaultAdmitsEvent t.vault row = .ok () := by
  unfold insertEvent at h
  obtain ⟨-, h⟩ := unit_bind_eq_ok.mp h
  obtain ⟨-, h⟩ := unit_bind_eq_ok.mp h
  obtain ⟨-, h⟩ := unit_bind_eq_ok.mp h
  obtain ⟨-, h⟩ := unit_bind_eq_ok.mp h
  obtain ⟨-, h⟩ := unit_bind_eq_ok.mp h
  exact (unit_bind_eq_ok.mp h).1

theorem retainDossier_vault {r : AppendRequest E} (h : retainDossier E cap t r = .ok t') :
    t'.vault = t.vault ∧ t'.events = t.events := by
  unfold retainDossier at h
  split at h
  · rw [← Except.ok.inj h]
    exact ⟨rfl, rfl⟩
  · unfold insertIntegrityPending at h
    obtain ⟨-, h⟩ := unit_bind_eq_ok.mp h
    obtain ⟨-, h⟩ := unit_bind_eq_ok.mp h
    obtain ⟨u, hu, h⟩ := bind_eq_ok.mp h
    rw [mapError_eq_ok] at hu
    have heq := (insertPending_spec hu).1
    obtain ⟨hv, he⟩ := retainIntegrityEvidence_vault h
    rw [hv, he, heq]
    exact ⟨rfl, rfl⟩

theorem appendVerifiedEvent_vault {r : AppendRequest E} {published : Bool} {e : EventV1}
    (h : appendVerifiedEvent E cap t r = .ok (.wrote t' published, e)) :
    VaultAppended cap r t t' := by
  obtain ⟨u, hu, -, hrows, hcheck, hfk⟩ := appendVerifiedEvent_spec h
  obtain ⟨⟨rfl, -⟩, -⟩ : (t' = u ∧ published = true) ∧ e = r.event := by simpa using hu
  unfold appendRows at hrows
  obtain ⟨u, hstaging, hrest⟩ := bind_eq_ok.mp hrows
  obtain ⟨w, hdossier, hinsert⟩ := bind_eq_ok.mp hrest
  rw [mapError_eq_ok] at hinsert
  obtain ⟨v, rfl⟩ := retainStaging_spec hstaging
  obtain ⟨hv, he⟩ := retainDossier_vault hdossier
  have hadmits := insertEvent_admits hinsert
  obtain ⟨rfl, hfresh, -⟩ := insertEvent_spec hinsert
  refine ⟨congrArg (· ++ _) he, ?_, ?_, hadmits, fun hs => ?_, hfk.vault⟩
  · rwa [he] at hfresh
  · exact hstaging.trans (by rw [hv])
  · unfold checkAppended at hcheck
    rw [if_pos hs] at hcheck
    exact (unit_bind_eq_ok.mp hcheck).1

/-- A transaction that commits rows leaves the vault and the events alone, or is an append. -/
theorem Txn.body_vault {ρ : Type} {x : Txn E ρ} {published : Bool} {y : ρ}
    (h : x.body E cap t = .ok (.wrote t' published, y)) :
    t'.vault = t.vault ∧ t'.events = t.events ∨ ∃ r, VaultAppended cap r t t' := by
  cases x with
  | appendVerifiedEvent r => exact .inr ⟨r, appendVerifiedEvent_vault h⟩
  | retainIntegrityAnchorStatement a b =>
    replace h : Etzio.retainIntegrityAnchorStatement E cap t a b = _ := h
    unfold Etzio.retainIntegrityAnchorStatement at h
    obtain ⟨ol, -, h⟩ := bind_eq_ok.mp h
    obtain ⟨l, -, h⟩ := orRefuse_bind_eq_ok.mp h
    split at h
    · exact absurd (resubmitPhase_unchanged h).2 (by simp)
    · obtain ⟨w, hw, h⟩ := bind_eq_ok.mp h
      obtain ⟨⟨rfl, -⟩, -⟩ : (w = t' ∧ true = published) ∧ a = y := by
        simpa [pure, Except.pure] using h
      exact .inl (writeAnchor_charged hw).2.vault
  | retainIntegrityCheckpointCandidate c b =>
    replace h : Etzio.retainIntegrityCheckpointCandidate E cap t c b = _ := h
    unfold Etzio.retainIntegrityCheckpointCandidate at h
    obtain ⟨-, h⟩ := unit_bind_eq_ok.mp h
    obtain ⟨ol, -, h⟩ := bind_eq_ok.mp h
    obtain ⟨l, -, h⟩ := orRefuse_bind_eq_ok.mp h
    obtain ⟨a, -, h⟩ := orRefuse_bind_eq_ok.mp h
    split at h
    · exact absurd (resubmitPhase_unchanged h).2 (by simp)
    · obtain ⟨w, hw, h⟩ := bind_eq_ok.mp h
      obtain ⟨⟨rfl, -⟩, -⟩ : (w = t' ∧ true = published) ∧ c = y := by
        simpa [pure, Except.pure] using h
      exact .inl (writeCandidate_charged hw).2.vault
  | finalizeIntegrityTransition f b =>
    replace h : Etzio.finalizeIntegrityTransition E cap t f b = _ := h
    unfold Etzio.finalizeIntegrityTransition at h
    obtain ⟨-, h⟩ := unit_bind_eq_ok.mp h
    obtain ⟨u, -, h⟩ := bind_eq_ok.mp h
    obtain ⟨ol, -, h⟩ := bind_eq_ok.mp h
    obtain ⟨l, -, h⟩ := orRefuse_bind_eq_ok.mp h
    obtain ⟨-, h⟩ := unit_bind_eq_ok.mp h
    split at h
    · exact absurd (resubmitPhase_unchanged h).2 (by simp)
    · obtain ⟨w, hw, h⟩ := bind_eq_ok.mp h
      obtain ⟨⟨rfl, -⟩, -⟩ : (w = t' ∧ true = published) ∧ f = y := by
        simpa [pure, Except.pure] using h
      exact .inl (writeFinalization_charged hw).2.vault
  | enrollBlockedFinalityRecovery p =>
    rw [(enrollBlockedFinalityRecovery_wrote h).eq]
    exact .inl ⟨rfl, rfl⟩
  | retainBlockedFinalityObservation o =>
    cases retainBlockedFinalityObservation_spec h with
    | wrote hw =>
      rw [hw.eq]
      exact .inl ⟨rfl, rfl⟩
  | retainGovernedRecoveryDecision d =>
    cases retainGovernedRecoveryDecision_spec h with
    | wrote hw =>
      rw [hw.eq]
      exact .inl ⟨rfl, rfl⟩
  | enrollModeledIntegrity p =>
    rw [(enrollModeledIntegrity_wrote h).eq]
    exact .inl ⟨rfl, rfl⟩
  | enrollQualifiedAcceptance q =>
    rw [(enrollQualifiedAcceptance_wrote h).eq]
    exact .inl ⟨rfl, rfl⟩
  | storeCheckpoint c =>
    rw [(storeCheckpoint_wrote h).eq]
    exact .inl ⟨rfl, rfl⟩
  | load m => simpa using (readOnly_unchanged h).2
  | loadIntegrityEvent d => simpa using (readOnly_unchanged h).2
  | loadIntegrityLineage d => simpa using (readOnly_unchanged h).2
  | loadIntegrityPredecessorLineages d => simpa using (readOnly_unchanged h).2
  | loadLatestFinalizedIntegrityLineages m => simpa using (readOnly_unchanged h).2
  | loadUnresolvedIntegrityTransition => simpa using (readOnly_unchanged h).2
  | loadBlockedFinalityObservations d => simpa using (readOnly_unchanged h).2
  | loadGovernedRecoveryDecision i => simpa using (readOnly_unchanged h).2
  | instanceIsSealed => simpa using (readOnly_unchanged h).2
  | resolveAcceptanceMode => simpa using (readOnly_unchanged h).2

end Writes

/-! ## Ownership -/

section Ownership

variable {Q : Type}

/-- Event `d` has a role for identity `i`. -/
def EvidenceVault.Claims (v : EvidenceVault) (d : Digest) (i : VaultIdentity) : Prop :=
  ∃ r ∈ v.roles, r.eventDigest = d ∧ r.identity = i

/-- The origin of an artifact is a retained event that claims it, and no event committed
before that one does. -/
def Tables.Origin (t : Tables EvidenceVault Q) (a : VaultArtifactRow) : Prop :=
  ∃ pre r post, t.events = pre ++ r :: post ∧ r.digest = a.originEventDigest ∧
    t.vault.Claims r.digest a.identity ∧ ∀ x ∈ pre, ¬t.vault.Claims x.digest a.identity

/-- Every event owns its manifest, and every artifact its bytes and its origin. -/
structure VaultOwned (digestBytesV1 : VaultScheme → List UInt8 → Digest)
    (t : Tables EvidenceVault Q) : Prop where
  rows : ∀ r ∈ t.events, r = .ofEvent r.canonical
  manifest : ∀ r ∈ t.events, t.vault.Manifests digestBytesV1 r.canonical
  foreignKeys : t.vault.foreignKeys t.events = true
  scheme : ∀ r ∈ t.vault.roles, r.identity.scheme = r.role.scheme
  once : (t.vault.artifacts.map VaultArtifactRow.identity).Nodup
  sound : ∀ a ∈ t.vault.artifacts, a.Sound digestBytesV1
  origin : ∀ a ∈ t.vault.artifacts, t.Origin a
  owned : ¬t.vault.Orphaned

theorem EvidenceVault.foreignKeys_iff {v : EvidenceVault} {events : List EventRow} :
    v.foreignKeys events = true ↔
      (∀ a ∈ v.artifacts, ∃ e ∈ events, e.digest = a.originEventDigest) ∧
        (∀ r ∈ v.roles, ∃ e ∈ events, e.digest = r.eventDigest) ∧
        ∀ r ∈ v.roles, ∃ a ∈ v.artifacts, a.identity = r.identity ∧ a.byteSize = r.byteSize := by
  unfold EvidenceVault.foreignKeys
  rw [decide_eq_true_iff]

section Steps

variable {W : VaultEnv} {cap : ℕ} {t t' : W.env.Db} {r : AppendRequest W.env}

theorem vault_eq_of_ok {v : EvidenceVault}
    (h : (Except.ok t : Except StoreError W.env.Db) = .ok { t with vault := v }) : v = t.vault := by
  have heq := Except.ok.inj h
  rw [heq]

/-- The rows of an append belong to its event. -/
theorem VaultAppended.grows (h : VaultAppended cap r t t') :
    EvidenceVault.Grows W.digestBytesV1 r.event.eventDigest t.vault t'.vault := by
  have hret := h.retained
  unfold retainStaging at hret
  split at hret
  · rw [← vault_eq_of_ok hret]
    exact .refl
  · obtain ⟨v, hv, hret⟩ := bind_eq_ok.mp hret
    obtain rfl : v = t'.vault := congrArg Tables.vault (Except.ok.inj hret)
    exact retainEventArtifacts_grows hv

/-- No role of an event that is not retained yet. -/
theorem VaultOwned.rolesOf_fresh {d : Digest} (ho : VaultOwned W.digestBytesV1 t)
    (hd : ∀ y ∈ t.events, y.digest ≠ d) : EvidenceVault.rolesOf t.vault d = [] := by
  refine List.eq_nil_iff_forall_not_mem.mpr fun x hx => ?_
  obtain ⟨hmem, hxd⟩ := mem_rolesOf.mp hx
  obtain ⟨y, hy, hyd⟩ := (EvidenceVault.foreignKeys_iff.mp ho.foreignKeys).2.1 x hmem
  exact hd y hy (hyd.trans hxd)

/-- An append that committed retained the manifest of its event and left no orphan. -/
theorem VaultAppended.manifest (h : VaultAppended cap r t t') (ho : VaultOwned W.digestBytesV1 t) :
    EvidenceVault.Manifests W.digestBytesV1 t'.vault r.event ∧
      ¬EvidenceVault.Orphaned t'.vault := by
  cases hs : r.staging with
  | some staging =>
    exact verifyAppendedManifest_eq_ok.mp (h.verified (by rw [hs]; rfl))
  | none =>
    have hret := h.retained
    unfold retainStaging at hret
    rw [hs] at hret
    have hvault : t'.vault = t.vault := vault_eq_of_ok hret
    have hroles := ho.rolesOf_fresh h.fresh
    have hadmits : EvidenceVault.admitsEvent t'.vault (.ofEvent r.event) = .ok () := h.admitted
    rw [hvault] at hadmits ⊢
    have hkind : r.event.kind ∉ protectedEvidenceEventKindsV1 :=
      EvidenceVault.admitsEvent_unprotected hroles hadmits
    refine ⟨⟨⟨[], deriveEventArtifactManifestV1_unprotected hkind, ?_⟩, ?_⟩, ho.owned⟩
    · rw [hroles]
      exact .nil
    · rw [hroles]
      exact fun x hx => absurd hx List.not_mem_nil

/-- A role of a retained event was there before the append. -/
theorem VaultAppended.claims_iff (h : VaultAppended cap r t t') {y : EventRow}
    (hy : y ∈ t.events) {i : VaultIdentity} :
    EvidenceVault.Claims t'.vault y.digest i ↔ EvidenceVault.Claims t.vault y.digest i := by
  constructor
  · rintro ⟨x, hx, hxd, hxi⟩
    rcases h.grows.roles.mem_or hx with hx | ⟨hnew, -⟩
    · exact ⟨x, hx, hxd, hxi⟩
    · exact absurd (hxd.symm.trans hnew) (h.fresh y hy)
  · rintro ⟨x, hx, hxd, hxi⟩
    exact ⟨x, h.grows.roles.mem hx, hxd, hxi⟩

/-- The origin of an artifact : the event it was retained with, or the one it had. -/
theorem VaultAppended.origin (h : VaultAppended cap r t t') (ho : VaultOwned W.digestBytesV1 t)
    {a : VaultArtifactRow} (ha : a ∈ EvidenceVault.artifacts t'.vault) : Tables.Origin t' a := by
  obtain ⟨new, hnew, hspec⟩ := h.grows.artifacts
  have honce := h.grows.once ho.once
  rw [hnew] at ha honce
  rcases List.mem_append.mp ha with ha | ha
  · obtain ⟨pre, y, post, hevents, hyd, hclaims, hfirst⟩ := ho.origin a ha
    have hmem : ∀ x ∈ pre ++ y :: post, x ∈ t.events := fun x hx => hevents ▸ hx
    refine ⟨pre, y, post ++ [.ofEvent r.event], ?_, hyd,
      (h.claims_iff (hmem y (by simp))).mpr hclaims, fun x hx => ?_⟩
    · rw [h.events, hevents, List.append_assoc, List.cons_append]
    · rw [h.claims_iff (hmem x (List.mem_append_left _ hx))]
      exact hfirst x hx
  · obtain ⟨hd, -⟩ := hspec a ha
    obtain ⟨-, horphan⟩ := h.manifest ho
    unfold EvidenceVault.Orphaned at horphan
    push Not at horphan
    obtain ⟨x, hx, hxi, -, hxd⟩ := horphan a (by rw [hnew]; exact List.mem_append_right _ ha)
    refine ⟨t.events, .ofEvent r.event, [], h.events, hd.symm, ⟨x, hx, hxd.trans hd, hxi⟩,
      fun y hy hclaims => ?_⟩
    -- A role that was there names an artifact that was there, under another identity.
    obtain ⟨z, hz, -, hzi⟩ := (h.claims_iff hy).mp hclaims
    obtain ⟨b, hb, hbi, -⟩ := (EvidenceVault.foreignKeys_iff.mp ho.foreignKeys).2.2 z hz
    rw [List.map_append, List.nodup_append] at honce
    exact honce.2.2 b.identity (List.mem_map_of_mem hb) a.identity (List.mem_map_of_mem ha)
      (hbi.trans hzi)

/-- An append keeps the ownership of the vault. -/
theorem VaultAppended.owned (h : VaultAppended cap r t t') (ho : VaultOwned W.digestBytesV1 t) :
    VaultOwned W.digestBytesV1 t' := by
  obtain ⟨hmanifest, horphan⟩ := h.manifest ho
  refine ⟨fun y hy => ?_, fun y hy => ?_, h.foreignKeys, fun x hx => ?_, h.grows.once ho.once,
    fun a ha => ?_, fun a ha => h.origin ho ha, horphan⟩
  · rw [h.events] at hy
    rcases List.mem_append.mp hy with hy | hy
    · exact ho.rows y hy
    · rw [List.mem_singleton.mp hy]
      rfl
  · rw [h.events] at hy
    rcases List.mem_append.mp hy with hy | hy
    · refine h.grows.manifests ?_ (ho.manifest y hy)
      have hdigest : y.digest = y.canonical.eventDigest :=
        congrArg EventRow.digest (ho.rows y hy)
      rw [← hdigest]
      exact h.fresh y hy
    · rw [List.mem_singleton.mp hy]
      exact hmanifest
  · rcases h.grows.roles.mem_or hx with hx | ⟨-, hscheme⟩
    · exact ho.scheme x hx
    · exact hscheme
  · rcases h.grows.artifacts.mem_or ha with ha | ⟨-, hsound⟩
    · exact ho.sound a ha
    · exact hsound

theorem VaultOwned.of_eq (hv : t'.vault = t.vault) (he : t'.events = t.events)
    (ho : VaultOwned W.digestBytesV1 t) : VaultOwned W.digestBytesV1 t' := by
  obtain ⟨hrows, hmanifest, hkeys, hscheme, honce, hsound, horigin, howned⟩ := ho
  unfold Tables.Origin at horigin
  rw [← hv] at hmanifest hkeys hscheme honce hsound horigin howned
  rw [← he] at hrows hmanifest hkeys horigin
  exact ⟨hrows, hmanifest, hkeys, hscheme, honce, hsound, horigin, howned⟩

/-- The vault is owned in every state of every run. -/
theorem Sys.Reachable.vaultOwned {s : Sys W.env} (h : s.Reachable) :
    VaultOwned W.digestBytesV1 s.tables := by
  refine h.invariant (fun _ _ ho hx => ?_) ?_
  · rcases Txn.body_vault hx with ⟨hv, he⟩ | ⟨r, happ⟩
    · exact ho.of_eq hv he
    · exact happ.owned ho
  · refine ⟨?_, ?_, rfl, ?_, List.nodup_nil, ?_, ?_, ?_⟩
    · exact List.forall_mem_nil _
    · exact List.forall_mem_nil _
    · exact List.forall_mem_nil _
    · exact List.forall_mem_nil _
    · exact List.forall_mem_nil _
    · rintro ⟨a, ha, -⟩
      exact List.not_mem_nil ha

end Steps

end Ownership

end Etzio
