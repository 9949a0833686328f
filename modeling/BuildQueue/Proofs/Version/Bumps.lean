import BuildQueue.Proofs.Version.Tags
import Mathlib.Data.List.Chain
import Mathlib.Data.List.Nodup
import Mathlib.Order.Bounds.Defs

/-!
# The order of versions

Versions are in the order of the first component that differs (`Version.lt_iff`). A bump gives the
least of the greater versions whose components below the raised one are zero
(`Version.isLeast_bump`). So a bump of a higher component goes further, bumps keep the order, and in a
series of releases, each of which is a bump of the one before, the versions and those read from their
tags rise (`Version.bump_next`).
-/

namespace BuildQueue

/-- The components below one. -/
def Bump.below : Bump → List Bump
  | major => [minor, patch]
  | minor => [patch]
  | patch => []

namespace Version

/-- The component that a bump raises. -/
def component (v : Version) : Bump → UInt64
  | .major => v.major
  | .minor => v.minor
  | .patch => v.patch

/-- The component that a bump raises is not yet the greatest number of 64 bits. -/
def HasRoom (v : Version) (b : Bump) : Prop := (v.component b).toNat + 1 < UInt64.size

/-- The versions of a series of releases, each a bump of the one before. -/
def series (v : Version) : List Bump → List Version
  | [] => [v]
  | b :: bumps => v :: (v.bump b).series bumps

/-- There is room for each bump of a series. -/
def HasRoomFor (v : Version) : List Bump → Prop
  | [] => True
  | b :: bumps => v.HasRoom b ∧ (v.bump b).HasRoomFor bumps

instance (v : Version) (b : Bump) : Decidable (v.HasRoom b) :=
  inferInstanceAs (Decidable (_ < _))

instance decidableHasRoomFor (v : Version) : (bumps : List Bump) → Decidable (v.HasRoomFor bumps)
  | [] => isTrue trivial
  | b :: bumps =>
    have := decidableHasRoomFor (v.bump b) bumps
    inferInstanceAs (Decidable (v.HasRoom b ∧ (v.bump b).HasRoomFor bumps))

/-! ## The order -/

theorem compare_eq_lt_iff {a b : UInt64} : compare a b = .lt ↔ a.toNat < b.toNat := by
  rw [Std.compare_eq_lt, UInt64.lt_iff_toNat_lt]

theorem compare_eq_gt_iff {a b : UInt64} : compare a b = .gt ↔ b.toNat < a.toNat := by
  rw [Std.compare_eq_gt, UInt64.lt_iff_toNat_lt]

theorem compare_eq_eq_iff {a b : UInt64} : compare a b = .eq ↔ a.toNat = b.toNat := by
  rw [Std.compare_eq_eq_iff_eq, UInt64.toNat_inj]

theorem cmp_eq_lt_iff {v w : Version} : v.cmp w = .lt ↔ v.major.toNat < w.major.toNat ∨
    v.major.toNat = w.major.toNat ∧ (v.minor.toNat < w.minor.toNat ∨
      v.minor.toNat = w.minor.toNat ∧ v.patch.toNat < w.patch.toNat) := by
  simp only [cmp, Ordering.then_eq_lt, compare_eq_lt_iff, compare_eq_eq_iff]

theorem cmp_ne_gt_iff {v w : Version} : v.cmp w ≠ .gt ↔ v.major.toNat < w.major.toNat ∨
    v.major.toNat = w.major.toNat ∧ (v.minor.toNat < w.minor.toNat ∨
      v.minor.toNat = w.minor.toNat ∧ v.patch.toNat ≤ w.patch.toNat) := by
  simp only [cmp, ne_eq, Ordering.then_eq_gt, compare_eq_gt_iff, compare_eq_eq_iff]
  omega

theorem ext_toNat {v w : Version} (hmajor : v.major.toNat = w.major.toNat)
    (hminor : v.minor.toNat = w.minor.toNat) (hpatch : v.patch.toNat = w.patch.toNat) : v = w := by
  cases v
  cases w
  simp_all [UInt64.toNat_inj]

instance : LT Version where
  lt v w := v.cmp w = .lt

instance : LE Version where
  le v w := v.cmp w ≠ .gt

instance (v w : Version) : Decidable (v < w) := inferInstanceAs (Decidable (v.cmp w = .lt))

instance (v w : Version) : Decidable (v ≤ w) := inferInstanceAs (Decidable (v.cmp w ≠ .gt))

variable {v w : Version} {b : Bump}

theorem lt_iff : v < w ↔ v.major.toNat < w.major.toNat ∨
    v.major.toNat = w.major.toNat ∧ (v.minor.toNat < w.minor.toNat ∨
      v.minor.toNat = w.minor.toNat ∧ v.patch.toNat < w.patch.toNat) :=
  cmp_eq_lt_iff

theorem le_iff : v ≤ w ↔ v.major.toNat < w.major.toNat ∨
    v.major.toNat = w.major.toNat ∧ (v.minor.toNat < w.minor.toNat ∨
      v.minor.toNat = w.minor.toNat ∧ v.patch.toNat ≤ w.patch.toNat) :=
  cmp_ne_gt_iff

instance : LinearOrder Version where
  le_refl v := by
    rw [le_iff]
    omega
  le_trans u v w := by
    simp only [le_iff]
    omega
  le_antisymm v w := by
    simp only [le_iff]
    exact fun h h' => ext_toNat (by omega) (by omega) (by omega)
  le_total v w := by
    simp only [le_iff]
    omega
  lt_iff_le_not_ge v w := by
    simp only [le_iff, lt_iff]
    omega
  toDecidableLE := inferInstance
  toDecidableLT := inferInstance
  toDecidableEq := inferInstance

/-! ## Bumps -/

/-- With room, a component that is raised is greater by one. -/
theorem toNat_add_one {n : UInt64} (h : n.toNat + 1 < UInt64.size) :
    (n + 1).toNat = n.toNat + 1 := by
  rw [UInt64.toNat_add, UInt64.toNat_one, Nat.mod_eq_of_lt h]

theorem lt_bump (h : v.HasRoom b) : v < v.bump b := by
  have hnext := toNat_add_one h
  rw [lt_iff]
  cases b <;> simp only [bump, component, true_and] at hnext ⊢ <;> omega

theorem component_bump_of_below : ∀ c ∈ b.below, (v.bump b).component c = 0 := by
  cases b <;> simp [Bump.below, bump, component]

/-- A greater version with zeros below the raised component is not less than the bump. -/
theorem bump_le (h : v.HasRoom b) (hlt : v < w) (hzero : ∀ c ∈ b.below, w.component c = 0) :
    v.bump b ≤ w := by
  have hnext := toNat_add_one h
  have hzero : ∀ c ∈ b.below, (w.component c).toNat = 0 := fun c hc => by rw [hzero c hc]; rfl
  rw [lt_iff] at hlt
  rw [le_iff]
  cases b <;> simp [Bump.below, bump, component] at hnext hzero ⊢ <;> omega

theorem isLeast_bump (h : v.HasRoom b) :
    IsLeast {w | v < w ∧ ∀ c ∈ b.below, w.component c = 0} (v.bump b) :=
  ⟨⟨lt_bump h, component_bump_of_below⟩, fun _ ⟨hlt, hzero⟩ => bump_le h hlt hzero⟩

/-- A bump of a higher component goes further. -/
theorem patch_lt_minor (h : v.HasRoom .minor) : v.bump .patch < v.bump .minor := by
  have hnext := toNat_add_one h
  rw [lt_iff]
  simp only [bump, component, true_and] at hnext ⊢
  omega

theorem minor_lt_major (h : v.HasRoom .major) : v.bump .minor < v.bump .major := by
  have hnext := toNat_add_one h
  rw [lt_iff]
  simp only [bump, component] at hnext ⊢
  omega

/-- Bumps keep the order, since the bump of the greater version is greater than the other one too. -/
theorem bump_le_bump (hv : v.HasRoom b) (hw : w.HasRoom b) (h : v ≤ w) : v.bump b ≤ w.bump b :=
  bump_le hv (lt_of_le_of_lt h (lt_bump hw)) component_bump_of_below

/-! ## Series -/

theorem isChain_series {bumps : List Bump} (h : v.HasRoomFor bumps) :
    (v.series bumps).IsChain (· < ·) := by
  induction bumps generalizing v with
  | nil => exact List.isChain_singleton v
  | cons b bumps ih =>
    obtain ⟨hroom, hrest⟩ := h
    have hchain := ih hrest
    rw [series]
    cases bumps with
    | nil => exact List.isChain_cons_cons.2 ⟨lt_bump hroom, hchain⟩
    | cons b' bumps => exact List.isChain_cons_cons.2 ⟨lt_bump hroom, hchain⟩

theorem pairwise_series {bumps : List Bump} (h : v.HasRoomFor bumps) :
    (v.series bumps).Pairwise (· < ·) :=
  List.isChain_iff_pairwise.1 (isChain_series h)

theorem map_ofTag?_tags (versions : List Version) :
    (versions.map tag).map ofTag? = versions.map some := by
  simp [ofTag?_tag]

theorem nodup_tags {versions : List Version} (h : versions.Pairwise (· < ·)) :
    (versions.map tag).Nodup :=
  List.Nodup.map (fun _ _ => tag_inj.1) (h.imp ne_of_lt)

/-- A bump is the next version of its kind. -/
theorem bump_next (v : Version) :
    (∀ b, v.HasRoom b → IsLeast {w | v < w ∧ ∀ c ∈ b.below, w.component c = 0} (v.bump b)) ∧
    (v.HasRoom .patch → v < v.bump .patch) ∧
    (v.HasRoom .minor → v.bump .patch < v.bump .minor) ∧
    (v.HasRoom .major → v.bump .minor < v.bump .major) ∧
    (∀ w b, v.HasRoom b → w.HasRoom b → v ≤ w → v.bump b ≤ w.bump b) ∧
    ∀ bumps, v.HasRoomFor bumps → ((v.series bumps).map tag).Nodup ∧
      ((v.series bumps).map tag).map ofTag? = (v.series bumps).map some ∧
      (v.series bumps).Pairwise (· < ·) :=
  ⟨fun _ => isLeast_bump, lt_bump, patch_lt_minor, minor_lt_major, fun _ _ => bump_le_bump,
    fun _ h => ⟨nodup_tags (pairwise_series h), map_ofTag?_tags _, pairwise_series h⟩⟩

/-- A version whose first component can be raised once more, and whose last one is the greatest. -/
def nearLimit : Version := ⟨18446744073709551614, 7, 18446744073709551615⟩

theorem bump_next_nearLimit : nearLimit.HasRoomFor [.minor, .patch, .major] ∧
    ((nearLimit.series [.minor, .patch, .major]).map tag).Nodup ∧
    IsLeast {w | nearLimit < w ∧ ∀ c ∈ Bump.major.below, w.component c = 0}
      ⟨18446744073709551615, 0, 0⟩ :=
  have h : nearLimit.HasRoomFor [.minor, .patch, .major] := by decide
  ⟨h, ((bump_next nearLimit).2.2.2.2.2 _ h).1, (bump_next nearLimit).1 .major (by decide)⟩

end Version

end BuildQueue
