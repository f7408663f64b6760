import ApkAudit.Audit.Context
import ApkAudit.Proofs.Number.Spelling

/-! The platform levels of a package, read off the texts that it gives for them. -/

namespace ApkAudit

namespace Context

def GivesLevel (level : Option String) (n : Nat) : Prop :=
  ∃ text, level = some text ∧ Number.Spells (Text.trimChars text.toList) n ∧ n < 0x100000000

lemma readSdk?_eq_some_iff {level : Option String} {n : Nat} :
    readSdk? level = some n ↔ GivesLevel level n := by
  have hok : ∀ read : Except Number.Problem Nat, read.toOption = some n ↔ read = .ok n := by
    rintro (e | m) <;> simp [Except.toOption]
  simp only [readSdk?, GivesLevel, Option.bind_eq_some_iff, hok, Number.readUInt32_eq_ok_iff,
    Text.trim, String.toList_ofList]

def LevelIs (level : Option String) (standIn n : Nat) : Prop :=
  GivesLevel level n ∨ (∀ m, ¬ GivesLevel level m) ∧ n = standIn

lemma levelIs_getD (level : Option String) (standIn : Nat) :
    LevelIs level standIn ((readSdk? level).getD standIn) := by
  cases h : readSdk? level with
  | some n => exact Or.inl (readSdk?_eq_some_iff.mp h)
  | none =>
    refine Or.inr ⟨fun m hm => ?_, rfl⟩
    rw [readSdk?_eq_some_iff.mpr hm] at h
    cases h

lemma levelIs_resolveSdk (minSdk targetSdk : Option String) :
    LevelIs minSdk 1 (resolveSdk minSdk targetSdk).1 ∧
      LevelIs targetSdk (resolveSdk minSdk targetSdk).1 (resolveSdk minSdk targetSdk).2 :=
  ⟨levelIs_getD minSdk defaultMinSdk, levelIs_getD targetSdk ((readSdk? minSdk).getD defaultMinSdk)⟩

lemma levelIs_ofPackage (package : Package) (exclusions : Exclusions) :
    LevelIs package.minSdk 1 (ofPackage package exclusions).minSdk ∧
      LevelIs package.targetSdk (ofPackage package exclusions).minSdk
        (ofPackage package exclusions).targetSdk :=
  levelIs_resolveSdk package.minSdk package.targetSdk

end Context

end ApkAudit
