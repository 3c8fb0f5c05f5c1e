import LiveModels.Proofs.Reload.Versions
import Mathlib.Data.List.Forall2

/-!
# Versions at the end of the range

A coordinator that reuses stored modules takes a version for each of them. As long as the counter has
not come to its end, these are the versions that a counter without an end would give: they increase,
and each is greater than the revision of its module. They are so for exactly those revisions for
which a counter without an end gives versions of 64 bits.

Revisions are read from files, so that a single module can take the counter to its end. After the
greatest version the counter begins at 0, as if no revision had been met. A module with the greatest
revision gets this revision as its version, as often as it is reused.
-/

namespace LiveModels.Coordinator

open Staged (lastVersion toNat_lastVersion)

variable {c : Coordinator} {revision : UInt64} {revisions : List UInt64}

/-- The versions that are taken for modules of some revisions, which are reused one after the
other. -/
def reuseVersions (c : Coordinator) : List UInt64 → List UInt64
  | [] => []
  | revision :: rest =>
    let (version, c') := (c.skipVersion revision).reserveVersion
    version :: c'.reuseVersions rest

/-- The versions that a counter without an end would give. -/
def endlessVersions (counter : Nat) : List UInt64 → List Nat
  | [] => []
  | revision :: rest =>
    let version := max counter (revision.toNat + 1)
    version :: endlessVersions (version + 1) rest

/-- Whether versions increase, and each is greater than the revision of its module. -/
structure Exceed (revisions versions : List UInt64) : Prop where
  increasing : versions.Pairwise (· < ·)
  greater : List.Forall₂ (· < ·) revisions versions

/-! ### One version -/

/-- The successor of a revision is at most the greatest version. -/
theorem toNat_successor (revision : UInt64) :
  (successor revision).toNat = min (revision.toNat + 1) lastVersion.toNat
  := by
  have hsize := revision.toNat_lt
  rw [toNat_lastVersion]
  unfold successor
  split
  case isTrue hlast =>
    have hmost : revision.toNat = 2 ^ 64 - 1 := congrArg UInt64.toNat hlast
    omega
  case isFalse hlast =>
    have hless : revision.toNat ≠ 2 ^ 64 - 1 := fun h => hlast (UInt64.toNat_inj.mp h)
    rw [UInt64.toNat_add, UInt64.toNat_one]
    omega

/-- The version for a module is that of the counter or the successor of the revision, whichever is
greater. -/
theorem toNat_nextVersion_skipVersion (c : Coordinator) (revision : UInt64) :
  (c.skipVersion revision).nextVersion.toNat =
    max c.nextVersion.toNat (min (revision.toNat + 1) lastVersion.toNat)
  := by
  rw [← toNat_successor]
  unfold skipVersion
  dsimp only
  split
  case isTrue hlt => exact (Nat.max_eq_right (UInt64.lt_iff_toNat_lt.mp hlt).le).symm
  case isFalse hle =>
    have hge := UInt64.le_iff_toNat_le.mp (UInt64.not_lt.mp hle)
    exact (Nat.max_eq_left hge).symm

theorem toNat_nextVersion_reserveVersion (c : Coordinator) :
  c.reserveVersion.2.nextVersion.toNat = (c.nextVersion.toNat + 1) % 2 ^ 64
  := UInt64.toNat_add _ _

theorem reuseVersions_cons (c : Coordinator) (revision : UInt64) (rest : List UInt64) :
  c.reuseVersions (revision :: rest) =
    (c.skipVersion revision).nextVersion ::
      (c.skipVersion revision).reserveVersion.2.reuseVersions rest
  := rfl

/-! ### A counter without an end -/

theorem le_of_mem_endlessVersions {counter version : Nat}
    (h : version ∈ endlessVersions counter revisions) :
  counter ≤ version
  := by
  induction revisions generalizing counter with
  | nil => cases h
  | cons revision rest ih =>
    rcases List.mem_cons.mp h with rfl | hrest
    · apply Nat.le_max_left
    · have hlater := ih hrest
      omega

/-- A counter without an end gives increasing versions, each greater than the revision of its
module. -/
theorem endlessVersions_exceed (counter : Nat) (revisions : List UInt64) :
  (endlessVersions counter revisions).Pairwise (· < ·) ∧
    List.Forall₂ (fun revision version => revision.toNat < version) revisions
      (endlessVersions counter revisions)
  := by
  induction revisions generalizing counter with
  | nil => exact ⟨.nil, .nil⟩
  | cons revision rest ih =>
    obtain ⟨hincreasing, hgreater⟩ := ih (max counter (revision.toNat + 1) + 1)
    constructor
    · apply List.Pairwise.cons _ hincreasing
      intro later hlater
      apply le_of_mem_endlessVersions hlater
    · apply List.Forall₂.cons _ hgreater
      apply Nat.le_max_right

/-! ### Up to the end -/

/-- The version for a module is that of a counter without an end, if this is a version of 64 bits. -/
theorem toNat_nextVersion_skipVersion_of_lt {counter : Nat}
    (hcounter : c.nextVersion.toNat = counter % 2 ^ 64)
    (h : max counter (revision.toNat + 1) < 2 ^ 64) :
  (c.skipVersion revision).nextVersion.toNat = max counter (revision.toNat + 1)
  := by
  rw [toNat_nextVersion_skipVersion, toNat_lastVersion]
  omega

/-- Versions of 64 bits are taken as from a counter without an end. The counter may have come to its
end itself, if no version is taken any more. -/
theorem map_toNat_reuseVersions {counter : Nat} (hcounter : c.nextVersion.toNat = counter % 2 ^ 64)
    (h : ∀ version ∈ endlessVersions counter revisions, version < 2 ^ 64) :
  (c.reuseVersions revisions).map UInt64.toNat = endlessVersions counter revisions
  := by
  induction revisions generalizing c counter with
  | nil => rfl
  | cons revision rest ih =>
    rw [endlessVersions, List.forall_mem_cons] at h
    have hversion := toNat_nextVersion_skipVersion_of_lt hcounter h.1
    rw [reuseVersions_cons, List.map_cons, endlessVersions, hversion, ih _ h.2]
    rw [toNat_nextVersion_reserveVersion, hversion]

/-- Versions that increase, each greater than the revision of its module, are those of a counter
without an end: the greatest version is taken for the last module at most. -/
theorem Exceed.lt {counter : Nat} (h : Exceed revisions (c.reuseVersions revisions))
    (hcounter : c.nextVersion.toNat = counter % 2 ^ 64)
    (hleast : ∀ version ∈ c.reuseVersions revisions, counter ≤ version.toNat) :
  ∀ version ∈ endlessVersions counter revisions, version < 2 ^ 64
  := by
  induction revisions generalizing c counter with
  | nil => simp [endlessVersions]
  | cons revision rest ih =>
    rw [reuseVersions_cons] at h hleast
    obtain ⟨hlater, hincreasing⟩ := List.pairwise_cons.mp h.increasing
    obtain ⟨hgreater, hrest⟩ := List.forall₂_cons.mp h.greater
    have hsize := (c.skipVersion revision).nextVersion.toNat_lt
    have hfits : max counter (revision.toNat + 1) < 2 ^ 64 := by
      have hcounter := hleast _ List.mem_cons_self
      rw [UInt64.lt_iff_toNat_lt] at hgreater
      omega
    have hversion := toNat_nextVersion_skipVersion_of_lt hcounter hfits
    rw [endlessVersions, List.forall_mem_cons]
    use hfits
    apply ih ⟨hincreasing, hrest⟩
    · rw [toNat_nextVersion_reserveVersion, hversion]
    · intro version hmem
      have hlt := UInt64.lt_iff_toNat_lt.mp (hlater version hmem)
      omega

/-- No version is less than the counter was at first, if versions increase. -/
theorem Exceed.le (h : Exceed revisions (c.reuseVersions revisions)) :
  ∀ version ∈ c.reuseVersions revisions, c.nextVersion.toNat ≤ version.toNat
  := by
  cases revisions with
  | nil => simp [reuseVersions]
  | cons revision rest =>
    have hfirst := UInt64.le_iff_toNat_le.mp (Staged.le_skipVersion c revision)
    rw [reuseVersions_cons] at h ⊢
    rw [List.forall_mem_cons]
    use hfirst
    intro version hmem
    have hlt := UInt64.lt_iff_toNat_lt.mp ((List.pairwise_cons.mp h.increasing).1 version hmem)
    omega

/-- Versions increase, each greater than the revision of its module, if and only if a counter without
an end gives versions of 64 bits. -/
theorem exceed_iff (c : Coordinator) (revisions : List UInt64) :
  Exceed revisions (c.reuseVersions revisions) ↔
    ∀ version ∈ endlessVersions c.nextVersion.toNat revisions, version < 2 ^ 64
  := by
  have hcounter : c.nextVersion.toNat = c.nextVersion.toNat % 2 ^ 64 :=
    (Nat.mod_eq_of_lt c.nextVersion.toNat_lt).symm
  constructor
  · intro h
    apply h.lt hcounter h.le
  · intro h
    have hmap := map_toNat_reuseVersions hcounter h
    obtain ⟨hincreasing, hgreater⟩ := endlessVersions_exceed c.nextVersion.toNat revisions
    rw [← hmap] at hincreasing hgreater
    constructor
    · exact (List.pairwise_map.mp hincreasing).imp UInt64.lt_iff_toNat_lt.mpr
    · exact (List.forall₂_map_right_iff.mp hgreater).imp fun _ _ => UInt64.lt_iff_toNat_lt.mpr

/-! ### After the end -/

/-- A module with the greatest revision gets this revision as its version. -/
theorem nextVersion_skipVersion_lastVersion (c : Coordinator) :
  (c.skipVersion lastVersion).nextVersion = lastVersion
  := by
  have hsize := c.nextVersion.toNat_lt
  apply UInt64.toNat_inj.mp
  rw [toNat_nextVersion_skipVersion, toNat_lastVersion]
  omega

theorem reuseVersions_replicate_lastVersion (c : Coordinator) (n : Nat) :
  c.reuseVersions (List.replicate n lastVersion) = List.replicate n lastVersion
  := by
  induction n generalizing c with
  | zero => rfl
  | succ n ih =>
    rw [List.replicate_succ, reuseVersions_cons, nextVersion_skipVersion_lastVersion, ih]

/-- Only the counter matters for the versions that are taken. -/
theorem reuseVersions_congr {c' : Coordinator} (h : c.nextVersion = c'.nextVersion) :
  c.reuseVersions revisions = c'.reuseVersions revisions
  := by
  induction revisions generalizing c c' with
  | nil => rw [reuseVersions, reuseVersions]
  | cons revision rest ih =>
    have hskipped : (c.skipVersion revision).nextVersion = (c'.skipVersion revision).nextVersion := by
      simp only [skipVersion, h]
    have hreserved : (c.skipVersion revision).reserveVersion.2.nextVersion =
        (c'.skipVersion revision).reserveVersion.2.nextVersion := by
      simp only [reserveVersion, hskipped]
    rw [reuseVersions_cons, reuseVersions_cons, hskipped, ih hreserved]

/-- After the greatest version, versions are taken as from a counter that begins at 0. -/
theorem reuseVersions_append {before : List UInt64}
    (h : (c.reuseVersions before).getLast? = some lastVersion) (after : List UInt64) :
  c.reuseVersions (before ++ after) =
    c.reuseVersions before ++ { c with nextVersion := 0 }.reuseVersions after
  := by
  induction before generalizing c with
  | nil => cases h
  | cons revision rest ih =>
    rw [List.cons_append, reuseVersions_cons, reuseVersions_cons, List.cons_append]
    rw [reuseVersions_cons] at h
    cases rest with
    | nil =>
      have hversion : (c.skipVersion revision).nextVersion = lastVersion := Option.some.inj h
      have hanew : (c.skipVersion revision).reserveVersion.2.nextVersion = 0 := by
        have hwraps : lastVersion + 1 = 0 := by decide
        simp only [reserveVersion, hversion, hwraps]
      have hlater : (c.skipVersion revision).reserveVersion.2.reuseVersions after =
          { c with nextVersion := 0 }.reuseVersions after := reuseVersions_congr hanew
      rw [List.nil_append, hlater, reuseVersions, List.nil_append]
    | cons next others =>
      rw [reuseVersions_cons, List.getLast?_cons_cons] at h
      have hlater : { (c.skipVersion revision).reserveVersion.2 with nextVersion := 0 }.reuseVersions
          after = { c with nextVersion := 0 }.reuseVersions after := reuseVersions_congr rfl
      rw [ih h, hlater]

/-- The versions that are taken for modules which are reused increase, each greater than the revision
of its module, exactly if a counter without an end gives versions of 64 bits; then they are the
versions that it gives. After the greatest version, which may be the version for a single module that
was read from a file, versions are taken as from a counter that begins at 0; and a module with the
greatest revision gets the same version whenever it is reused. -/
theorem reuseVersions_exceed_until_limit (c : Coordinator) :
  (∀ revisions, Exceed revisions (c.reuseVersions revisions) ↔
      ∀ version ∈ endlessVersions c.nextVersion.toNat revisions, version < 2 ^ 64) ∧
    (∀ revisions, Exceed revisions (c.reuseVersions revisions) →
      (c.reuseVersions revisions).map UInt64.toNat =
        endlessVersions c.nextVersion.toNat revisions) ∧
    (∀ before after, (c.reuseVersions before).getLast? = some lastVersion →
      c.reuseVersions (before ++ after) =
        c.reuseVersions before ++ { c with nextVersion := 0 }.reuseVersions after) ∧
    ∀ n, c.reuseVersions (List.replicate n lastVersion) = List.replicate n lastVersion
  := by
  refine ⟨exceed_iff c, ?_, ?_, reuseVersions_replicate_lastVersion c⟩
  · intro revisions h
    have hcounter := (Nat.mod_eq_of_lt c.nextVersion.toNat_lt).symm
    apply map_toNat_reuseVersions hcounter ((exceed_iff c revisions).mp h)
  · intro before after h
    apply reuseVersions_append h

/-- Three modules take a new coordinator to the greatest version. A single one takes it there as well,
and the module that is reused next gets the version 1. -/
theorem new_reaches_limit :
  Exceed [0xfffffffffffffffc, 7, 0xfffffffffffffffe]
      ((default : Coordinator).reuseVersions [0xfffffffffffffffc, 7, 0xfffffffffffffffe]) ∧
    ((default : Coordinator).reuseVersions [0xfffffffffffffffc, 7, 0xfffffffffffffffe]).map
      UInt64.toNat = [2 ^ 64 - 3, 2 ^ 64 - 2, 2 ^ 64 - 1] ∧
    ((default : Coordinator).reuseVersions [0xfffffffffffffffe]).getLast? = some lastVersion ∧
    (default : Coordinator).reuseVersions [0xfffffffffffffffe, 0] = [lastVersion, 1]
  := by
  obtain ⟨hiff, hvalues, hanew, -⟩ := reuseVersions_exceed_until_limit default
  have hexceed : Exceed [0xfffffffffffffffc, 7, 0xfffffffffffffffe]
      ((default : Coordinator).reuseVersions [0xfffffffffffffffc, 7, 0xfffffffffffffffe]) := by
    rw [hiff]
    decide
  have hlast : ((default : Coordinator).reuseVersions [0xfffffffffffffffe]).getLast? =
      some lastVersion := rfl
  refine ⟨hexceed, ?_, hlast, ?_⟩
  · rw [hvalues _ hexceed]
    decide
  · exact hanew [0xfffffffffffffffe] [0] hlast

end LiveModels.Coordinator
