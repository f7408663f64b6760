import ApkAudit.Proofs.Exclusions.Segments
import ApkAudit.Proofs.Smali.Descriptor

/-! The forms in which a class or a package can be written: they are one pattern and one name. -/

namespace ApkAudit.Exclusions

open Text
open Smali (dots mem_dots className classNameChars_class)

structure CodePath where
  chars : List Char
  solid : IsSolid chars
  stop_not_mem : ';' ∉ chars
  significant : ∃ c ∈ chars, c ≠ '/' ∧ c ≠ '.'

inductive Form where
  | descriptor
  | folder
  | dotted
  | dottedFolder
  | converted

def Form.write (path : CodePath) : Form → String
  | descriptor => String.ofList ('L' :: path.chars ++ [';'])
  | folder => String.ofList ('L' :: path.chars ++ ['/'])
  | dotted => String.ofList (dots path.chars)
  | dottedFolder => String.ofList (dots path.chars ++ ['.'])
  | converted => className (String.ofList ('L' :: path.chars ++ [';']))

def CodePath.package (path : CodePath) : String :=
  String.ofList ((dots path.chars).rdropWhile (· = '.'))

section Separators

variable {cs : List Char}

lemma slash_not_mem_dots (cs : List Char) : '/' ∉ dots cs := by
  intro h
  rcases mem_dots h with he | ⟨-, hn⟩
  · cases he
  · exact hn rfl

lemma stop_not_mem_dots (h : ';' ∉ cs) : ';' ∉ dots cs := by
  intro hm
  rcases mem_dots hm with he | ⟨hc, -⟩
  · cases he
  · exact h hc

lemma solid_dots (h : IsSolid cs) : IsSolid (dots cs) := by
  intro c hc
  rcases mem_dots hc with rfl | ⟨hm, -⟩
  · rfl
  · exact h c hm

lemma mem_dots_of_ne {c : Char} (h : c ∈ cs) (hc : c ≠ '/') : c ∈ dots cs :=
  List.mem_map.mpr ⟨c, h, if_neg hc⟩

lemma dots_concat_slash (cs : List Char) : dots (cs ++ ['/']) = dots cs ++ ['.'] := by
  simp [dots]

end Separators

section Forms

lemma normalizeChars_headed {body : List Char} (hs : IsSolid body)
    (hm : '/' ∈ body ∨ body.getLast? = some ';') :
    normalizeChars ('L' :: body) =
      (dots (body.rdropWhile (· = ';'))).rdropWhile (· = '.') := by
  have hsolid : IsSolid ('L' :: body) := List.forall_mem_cons.mpr ⟨rfl, hs⟩
  have hmark : '/' ∈ 'L' :: body ∨ ('L' :: body).getLast? = some ';' := by
    apply hm.imp
    · exact List.mem_cons_of_mem 'L'
    · intro hl
      rw [List.getLast?_cons, hl]
      rfl
  rw [normalizeChars, hsolid.trim, if_pos ⟨rfl, hmark⟩]
  rfl

variable (path : CodePath)

lemma CodePath.rdropWhile_chars : path.chars.rdropWhile (· = ';') = path.chars := by
  apply List.rdropWhile_eq_self_iff.mpr
  intro hn he
  apply path.stop_not_mem
  rw [← of_decide_eq_true he]
  exact List.getLast_mem hn

lemma CodePath.solid_concat {c : Char} (hc : isBlank c = false) : IsSolid (path.chars ++ [c]) :=
  path.solid.append (by simpa [IsSolid] using hc)

lemma normalize_dotted : normalizeChars (dots path.chars) = path.package.toList := by
  rw [normalizeChars_of_dotted (solid_dots path.solid) (slash_not_mem_dots _)
    (stop_not_mem_dots path.stop_not_mem), CodePath.package, String.toList_ofList]

lemma normalize_write (form : Form) : normalize (form.write path) = path.package := by
  rw [← String.toList_inj, toList_normalize]
  cases form with
  | descriptor =>
    rw [Form.write, String.toList_ofList, List.cons_append,
      normalizeChars_headed (path.solid_concat rfl) (.inr List.getLast?_concat),
      List.rdropWhile_concat_pos _ _ _ rfl, path.rdropWhile_chars, CodePath.package,
      String.toList_ofList]
  | folder =>
    rw [Form.write, String.toList_ofList, List.cons_append,
      normalizeChars_headed (path.solid_concat rfl) (.inl (by simp)),
      List.rdropWhile_concat_neg _ _ _ (by decide), dots_concat_slash,
      List.rdropWhile_concat_pos _ _ _ rfl, CodePath.package, String.toList_ofList]
  | dotted => rw [Form.write, String.toList_ofList, normalize_dotted]
  | dottedFolder =>
    have hslash : '/' ∉ dots path.chars ++ ['.'] := by simp [slash_not_mem_dots]
    have hstop : ';' ∉ dots path.chars ++ ['.'] := by
      simp [stop_not_mem_dots path.stop_not_mem]
    have hsolid : IsSolid (dots path.chars ++ ['.']) :=
      (solid_dots path.solid).append (by simp [IsSolid]; rfl)
    rw [Form.write, String.toList_ofList, normalizeChars_of_dotted hsolid hslash hstop,
      List.rdropWhile_concat_pos _ _ _ rfl, CodePath.package, String.toList_ofList]
  | converted =>
    rw [Form.write, className, String.toList_ofList, String.toList_ofList,
      classNameChars_class, normalize_dotted]

lemma CodePath.package_ne_empty : path.package ≠ "" := by
  obtain ⟨c, hc, hslash, hdot⟩ := path.significant
  intro he
  have hn : (dots path.chars).rdropWhile (· = '.') = [] := by simpa [CodePath.package] using he
  rw [List.rdropWhile_eq_nil_iff] at hn
  exact hdot (of_decide_eq_true (hn c (mem_dots_of_ne hc hslash)))

end Forms

lemma excludes_of_mem {exclusions : Exclusions} {name : String}
    (h : normalize name ∈ exclusions.packages) : exclusions.excludes name = true := by
  rw [excludes, List.any_eq_true]
  refine ⟨normalize name, h, ?_⟩
  rw [toList_normalize, covers_eq_true_iff]
  exact ⟨[], by simp, by simp [GoesOn]⟩

lemma excludes_congr {name name' : String} (h : normalize name = normalize name')
    (exclusions : Exclusions) : exclusions.excludes name = exclusions.excludes name' := by
  rw [excludes, excludes, ← toList_normalize, h, toList_normalize]

/-- Whatever form a path is written in, it is one pattern, and one name under all exclusions; and a
pattern in one form excludes the name in any other. -/
theorem forms_interchangeable (path : CodePath) :
    ∃ package : String, package ≠ "" ∧ ∀ form form' : Form,
      (ofPatterns [form.write path]).packages = [package] ∧
        (∀ exclusions : Exclusions,
          exclusions.excludes (form.write path) = exclusions.excludes (form'.write path)) ∧
        ∀ patterns : List String, form'.write path ∈ patterns →
          (ofPatterns patterns).excludes (form.write path) = true := by
  have hn := path.package_ne_empty
  refine ⟨path.package, hn, fun form form' => ⟨?_, ?_, ?_⟩⟩
  · simp [ofPatterns, normalize_write, hn]
  · apply excludes_congr
    rw [normalize_write, normalize_write]
  · intro patterns hm
    apply excludes_of_mem
    rw [normalize_write, ofPatterns, List.mem_filter]
    refine ⟨List.mem_map.mpr ⟨form'.write path, hm, normalize_write path form'⟩, ?_⟩
    simpa using hn

def awkwardPath : CodePath where
  chars := "L/Été/".toList
  solid := List.forall_iff_forall_mem.mp (by decide)
  stop_not_mem := by decide
  significant := ⟨'L', by decide, by decide, by decide⟩

theorem forms_interchangeable_awkward :
    Form.descriptor.write awkwardPath ∈ ["androidx", "LL/Été/;"] ∧
      (ofPatterns ["androidx", "LL/Été/;"]).excludes (Form.dotted.write awkwardPath) = true := by
  have hm : Form.descriptor.write awkwardPath ∈ ["androidx", "LL/Été/;"] := by decide
  obtain ⟨package, -, h⟩ := forms_interchangeable awkwardPath
  exact ⟨hm, (h .dotted .descriptor).2.2 _ hm⟩

end ApkAudit.Exclusions
