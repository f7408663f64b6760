import ApkAudit.Code.Index
import Mathlib.Data.List.Nodup
import Mathlib.Logic.Function.Basic

/-! Lists of entries with a map from keys to positions: what the two parts have to agree on, and
that adding and changing entries keeps the agreement. -/

namespace ApkAudit.CodeIndex

variable {κ ε : Type} [DecidableEq κ] [Hashable κ]

/-- The entries are those of distinct keys, in order, and the map gives the position of each key.
A key without an entry has a fresh one in its stead. -/
structure Tabled (fresh : κ → ε) (keys : List κ) (content : κ → ε) (entries : List ε)
    (positions : Std.HashMap κ Nat) : Prop where
  entries_eq : entries = keys.map content
  position_iff : ∀ (key : κ) (position : Nat),
    positions[key]? = some position ↔ keys[position]? = some key
  content_fresh : ∀ key ∉ keys, content key = fresh key

namespace Tabled

variable {fresh : κ → ε} {keys : List κ} {content : κ → ε} {entries : List ε}
  {positions : Std.HashMap κ Nat}

lemma nil (fresh : κ → ε) : Tabled fresh [] fresh [] (∅ : Std.HashMap κ Nat) :=
  ⟨rfl, fun key position => by simp, fun _ _ => rfl⟩

lemma nodup (h : Tabled fresh keys content entries positions) : keys.Nodup := by
  rw [List.nodup_iff_injective_getElem]
  intro i j hij
  have hi := (h.position_iff keys[i] i).mpr (List.getElem?_eq_getElem i.2)
  have hj := (h.position_iff keys[j] j).mpr (List.getElem?_eq_getElem j.2)
  have hij' : keys[i] = keys[j] := hij
  rw [hij', hj] at hi
  exact Fin.ext (Option.some.inj hi).symm

lemma position_lt (h : Tabled fresh keys content entries positions) {key : κ} {position : Nat}
    (hp : positions[key]? = some position) : position < entries.length := by
  obtain ⟨hlt, _⟩ := List.getElem?_eq_some_iff.mp ((h.position_iff key position).mp hp)
  simpa [h.entries_eq] using hlt

lemma position_eq_none_iff (h : Tabled fresh keys content entries positions) {key : κ} :
    positions[key]? = none ↔ key ∉ keys := by
  constructor
  · intro hn hk
    obtain ⟨position, hp⟩ := List.getElem?_of_mem hk
    rw [(h.position_iff key position).mpr hp] at hn
    cases hn
  · intro hk
    by_contra hn
    obtain ⟨position, hp⟩ := Option.ne_none_iff_exists'.mp hn
    exact hk (List.mem_of_getElem? ((h.position_iff key position).mp hp))

lemma entry_eq (h : Tabled fresh keys content entries positions) (key : κ) :
    (positions[key]?.bind fun position => entries[position]?) =
      if key ∈ keys then some (content key) else none := by
  split
  · next hk =>
    obtain ⟨position, hp⟩ := List.getElem?_of_mem hk
    rw [(h.position_iff key position).mpr hp, Option.bind_some, h.entries_eq, List.getElem?_map, hp,
      Option.map_some]
  · next hk => rw [h.position_eq_none_iff.mpr hk, Option.bind_none]

lemma entry_eq_find? (h : Tabled fresh keys content entries positions) {keyOf : ε → κ}
    (hk : ∀ key, keyOf (content key) = key) (key : κ) :
    (positions[key]?.bind fun position => entries[position]?) =
      entries.find? fun e => keyOf e = key := by
  rw [h.entry_eq, h.entries_eq, List.find?_map]
  have hf : keys.find? ((fun e => decide (keyOf e = key)) ∘ content) =
      if key ∈ keys then some key else none := by
    split
    · next hm =>
      rw [List.find?_eq_some_iff_getElem]
      obtain ⟨position, hlt, hp⟩ := List.getElem_of_mem hm
      refine ⟨by simp [hk], position, hlt, hp, fun j hj => ?_⟩
      have hne : keys[j] ≠ key := by
        rw [← hp]
        exact fun he => (Nat.ne_of_lt hj) ((List.Nodup.getElem_inj_iff h.nodup).mp he)
      simp [hk, hne]
    · next hm =>
      rw [List.find?_eq_none]
      intro k hkm
      simp only [Function.comp_apply, hk, decide_eq_true_eq]
      rintro rfl
      exact hm hkm
  rw [hf]
  split <;> rfl

lemma modify (h : Tabled fresh keys content entries positions) {key : κ} {position : Nat}
    (hp : positions[key]? = some position) (f : ε → ε) :
    Tabled fresh keys (Function.update content key (f (content key))) (entries.modify position f)
      positions := by
  have hkey := (h.position_iff key position).mp hp
  refine ⟨?_, h.position_iff, fun other ho => ?_⟩
  · apply List.ext_getElem?
    intro i
    rw [List.getElem?_modify, h.entries_eq, List.getElem?_map, List.getElem?_map]
    by_cases hi : position = i
    · subst hi
      simp [hkey]
    · cases hk : keys[i]? with
      | none => simp [hi]
      | some other =>
        have hne : other ≠ key := by
          rintro rfl
          have := (h.position_iff other i).mpr hk
          rw [hp] at this
          exact hi (Option.some.inj this)
        simp [hi, Function.update_of_ne hne]
  · have hne : other ≠ key := by
      rintro rfl
      exact ho (List.mem_of_getElem? hkey)
    rw [Function.update_of_ne hne, h.content_fresh other ho]

lemma append (h : Tabled fresh keys content entries positions) {key : κ}
    (hp : positions[key]? = none) (e : ε) :
    Tabled fresh (keys ++ [key]) (Function.update content key e) (entries ++ [e])
      (positions.insert key entries.length) := by
  have hk := h.position_eq_none_iff.mp hp
  have hlen : entries.length = keys.length := by simp [h.entries_eq]
  refine ⟨?_, fun other position => ?_, fun other ho => ?_⟩
  · have hm : keys.map (Function.update content key e) = keys.map content := by
      apply List.map_congr_left
      intro other ho
      have hne : other ≠ key := by
        rintro rfl
        exact hk ho
      exact Function.update_of_ne hne _ _
    simp [h.entries_eq, hm]
  · rw [Std.HashMap.getElem?_insert, hlen]
    -- the new key is at the end and nowhere before, an old key is where it was
    by_cases ho : other = key
    · subst ho
      simp only [beq_self_eq_true, if_true, Option.some.injEq]
      constructor
      · rintro rfl
        simp
      · intro hs
        rcases Nat.lt_trichotomy position keys.length with hlt | heq | hgt
        · rw [List.getElem?_append_left hlt] at hs
          exact (hk (List.mem_of_getElem? hs)).elim
        · exact heq.symm
        · rw [List.getElem?_eq_none (by simp; omega)] at hs
          cases hs
    · have hb : (key == other) = false := by simpa using Ne.symm ho
      rw [hb, if_neg Bool.false_ne_true, h.position_iff]
      rcases Nat.lt_or_ge position keys.length with hlt | hge
      · rw [List.getElem?_append_left hlt]
      · rw [List.getElem?_append_right hge, List.getElem?_eq_none hge]
        cases hd : position - keys.length with
        | zero => simp [Ne.symm ho]
        | succ n => simp
  · simp only [List.mem_append, List.mem_singleton, not_or] at ho
    rw [Function.update_of_ne ho.2, h.content_fresh other ho.1]

end Tabled

end ApkAudit.CodeIndex
