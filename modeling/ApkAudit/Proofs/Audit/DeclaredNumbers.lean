import ApkAudit.Proofs.Audit.PlatformLevel
import ApkAudit.Proofs.Audit.Validation

/-! The numbers that a package declares, as texts: its platform levels and its version code. -/

namespace ApkAudit.Context

/-- A version code is an integer of 64 bits, with blanks around it. -/
def GivesCode (code : String) (k : Int) : Prop :=
  Number.SpellsInt (Text.trimChars code.toList) k ∧
    -0x8000000000000000 ≤ k ∧ k ≤ 0x7FFFFFFFFFFFFFFF

lemma readInt64_trim {code : String} {k : Int} :
    Number.readInt64 (Text.trim code) = .ok k ↔ GivesCode code k := by
  rw [Number.readInt64_eq_ok_iff, Text.trim, String.toList_ofList, GivesCode]

def KeepsCode (code : String) (kept : Option Json) : Prop :=
  (∀ k, kept = some (.int k) ↔ GivesCode code k) ∧
    ((∀ k, ¬ GivesCode code k) → kept = some (.string code))

lemma keepsCode_versionCodeJson (code : String) : KeepsCode code (some (versionCodeJson code)) := by
  rw [versionCodeJson]
  cases hr : Number.readInt64 (Text.trim code) with
  | ok n =>
    refine ⟨fun k => ?_, fun h => (h n (readInt64_trim.mp hr)).elim⟩
    rw [← readInt64_trim, hr]
    simp
  | error e =>
    refine ⟨fun k => ?_, fun _ => rfl⟩
    rw [← readInt64_trim, hr]
    simp

lemma sdkAtLeast_iff (c : Context) (level : Nat) :
    c.sdkAtLeast level = true ↔ level ≤ max c.minSdk c.targetSdk := by
  simp only [sdkAtLeast, Bool.or_eq_true, decide_eq_true_eq]
  omega

/-- Levels are numbers of 32 bits, the target being the least level and this being 1 unless they are
given, and a context reaches a level if one of the two does.  A version code is recorded as an
integer of 64 bits exactly where it is one, and otherwise as it is. -/
theorem declared_numbers :
    (∀ minSdk targetSdk,
      LevelIs minSdk 1 (resolveSdk minSdk targetSdk).1 ∧
      LevelIs targetSdk (resolveSdk minSdk targetSdk).1 (resolveSdk minSdk targetSdk).2) ∧
    ∀ (package : Package) (path : String) (fingerprint : Fingerprint) (exclusions : Exclusions)
      (r : Report),
      (∀ c, (build package path fingerprint exclusions r).value.1 = .ok c →
        ∀ level, c.sdkAtLeast level = true ↔
          level ≤ max (resolveSdk package.minSdk package.targetSdk).1
            (resolveSdk package.minSdk package.targetSdk).2) ∧
      ∀ code, package.versionCode = some code → Text.isBlankText code = false →
        Text.trim package.packageName ≠ "" →
        KeepsCode code ((build package path fingerprint exclusions r).value.2.metadata.get?
          "package_version_code") := by
  refine ⟨levelIs_resolveSdk, fun package path fingerprint exclusions r => ?_⟩
  refine ⟨fun c hc level => ?_, fun code hcode hb hn => ?_⟩
  · obtain ⟨-, -, rfl⟩ := of_build_ok package path fingerprint exclusions r hc
    rw [sdkAtLeast_iff, ofPackage]
  · have hkept := get?_manifestWrites package path fingerprint exclusions r hn
      (w := ⟨"package_version_code", versionCodeJson code, false⟩)
      (by simp [manifestWrites, hcode, hb])
    dsimp only at hkept
    rw [hkept]
    exact keepsCode_versionCodeJson code

def signed : Package where
  packageName := "com.example"
  minSdk := some " +0021 "
  targetSdk := some "latest"
  versionCode := some " -9223372036854775808 "

theorem declared_numbers_signed :
    GivesLevel signed.minSdk 21 ∧
    (∀ level, (ofPackage signed {}).sdkAtLeast level = true ↔ level ≤ 21) ∧
    (build signed "app.apk" ⟨"", "", "", ""⟩ {} .empty).value.2.metadata.get?
      "package_version_code" = some (.int (-0x8000000000000000)) := by
  have hname : Text.trim signed.packageName ≠ "" := by decide +kernel
  have hsdk : resolveSdk signed.minSdk signed.targetSdk = (21, 21) := by decide +kernel
  have hcode : Number.readInt64 (Text.trim " -9223372036854775808 ") =
      .ok (-0x8000000000000000) := by decide +kernel
  obtain ⟨hlevels, hbuild⟩ := declared_numbers
  obtain ⟨hreaches, hkept⟩ := hbuild signed "app.apk" ⟨"", "", "", ""⟩ {} .empty
  refine ⟨?_, ?_, ?_⟩
  · have hleast := (hlevels signed.minSdk signed.targetSdk).1
    rw [hsdk] at hleast
    exact hleast.resolve_right fun h => by cases h.2
  · have hc := congrArg Prod.fst
      (Engine.build_accepted signed "app.apk" ⟨"", "", "", ""⟩ {} .empty hname (by decide))
    have hlevel := hreaches _ hc
    rw [hsdk] at hlevel
    exact hlevel
  · have hcodes := hkept " -9223372036854775808 " rfl (by decide +kernel) hname
    exact (hcodes.1 _).mpr (readInt64_trim.mp hcode)

end ApkAudit.Context
