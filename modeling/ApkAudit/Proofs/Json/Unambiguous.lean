import ApkAudit.Json.Printer
import ApkAudit.Json.Reader
import Mathlib.Data.List.TakeWhile
import Mathlib.Tactic.Common

/-! Where the indented text of a value begins a longer text and no digit follows, the text gives the
value back, and what follows it.  So two values with one text are the same, as long as they hold no
floating-point numbers. -/

namespace ApkAudit.Json

inductive Exact : Json → Prop
  | null : Exact .null
  | bool (b : Bool) : Exact (.bool b)
  | int (n : Int) : Exact (.int n)
  | string (s : String) : Exact (.string s)
  | array {items : List Json} (h : ∀ item ∈ items, Exact item) : Exact (.array items)
  | object {members : List (String × Json)} (h : ∀ m ∈ members, Exact m.2) :
      Exact (.object members)

section Strings

lemma digit?_hexDigit {n : Nat} (h : n < 16) : Number.digit? 16 (hexDigit n) = some n := by
  have hd : ∀ m < 16, Number.digit? 16 (hexDigit m) = some m := by decide
  exact hd n h

lemma codeUnits?_hexDigit {c : Char} (h : c.toNat < 0x20) (rest : List Char) :
    codeUnits? ('0' :: '0' :: hexDigit (c.toNat / 16) :: hexDigit (c.toNat % 16) :: rest) =
      some (c, rest) := by
  have hz : Number.digit? 16 '0' = some 0 := rfl
  have hu : unit? ('0' :: '0' :: hexDigit (c.toNat / 16) :: hexDigit (c.toNat % 16) :: rest) =
      some (c.toNat, rest) := by
    simp [unit?, hz, digit?_hexDigit (show c.toNat / 16 < 16 by omega),
      digit?_hexDigit (show c.toNat % 16 < 16 by omega)]
    omega
  simp [codeUnits?, hu, Text.charOfNat?_toNat]
  omega

lemma stringRest_escapeChar (c : Char) (done : List Char) (n : Nat) (rest : List Char) :
    stringRest done (n + 1) (escapeChar c ++ rest) = stringRest (c :: done) n rest := by
  unfold escapeChar
  split
  case h_8 hq hb _ _ _ _ _ =>
    split
    · next h => simp [stringRest, codeUnits?_hexDigit h]
    · next h =>
      simp only [List.cons_append, List.nil_append]
      rw [stringRest]
      · simpa [h] using fun he => (hb he).elim
      all_goals simp_all
  all_goals rfl

lemma stringRest_escaped (cs done : List Char) {n : Nat} (h : cs.length < n)
    (rest : List Char) :
    stringRest done n (cs.flatMap escapeChar ++ '"' :: rest) =
      some (String.ofList (done.reverse ++ cs), rest) := by
  obtain ⟨n, rfl⟩ := Nat.exists_eq_add_one_of_ne_zero (Nat.ne_zero_of_lt h)
  induction cs generalizing done n with
  | nil => simp [stringRest]
  | cons c cs ih =>
    obtain ⟨n, rfl⟩ := Nat.exists_eq_add_one_of_ne_zero (n := n) (by simp at h; omega)
    rw [List.flatMap_cons, List.append_assoc, stringRest_escapeChar, ih _ _ (by simpa using h)]
    simp

lemma quote_cancel {s t : String} {rest rest' : List Char}
    (h : (quote s).toList ++ rest = (quote t).toList ++ rest') : s = t ∧ rest = rest' := by
  have hb : s.toList.flatMap escapeChar ++ '"' :: rest =
      t.toList.flatMap escapeChar ++ '"' :: rest' := by
    simpa [quote] using h
  have hs := stringRest_escaped s.toList []
    (show s.toList.length < s.toList.length + t.toList.length + 1 by omega) rest
  have ht := stringRest_escaped t.toList []
    (show t.toList.length < s.toList.length + t.toList.length + 1 by omega) rest'
  rw [hb, ht] at hs
  simpa [eq_comm] using hs

end Strings

def Ends (rest : List Char) : Prop :=
  ∀ c ∈ rest.head?, c.isDigit = false

@[simp] lemma ends_nil : Ends [] := by
  simp [Ends]

@[simp] lemma ends_cons (c : Char) (rest : List Char) : Ends (c :: rest) ↔ c.isDigit = false := by
  simp [Ends]

section Numbers

open Number.Binary64

variable {m n : Nat} {rest rest' : List Char}

lemma isDigit_of_mem_digitText {c : Char} (h : c ∈ digitText n) : c.isDigit = true :=
  Nat.isDigit_of_mem_toDigits (by decide : 0 < 10) (by decide) h

lemma takeWhile_digitText (n : Nat) (hr : Ends rest) :
    (digitText n ++ rest).takeWhile Char.isDigit = digitText n := by
  have hn : rest.takeWhile Char.isDigit = [] := by
    cases rest with
    | nil => rfl
    | cons c rest => simp [(ends_cons c rest).mp hr]
  rw [List.takeWhile_append_of_pos fun _ => isDigit_of_mem_digitText, hn, List.append_nil]

lemma digitText_cancel (hr : Ends rest) (hr' : Ends rest')
    (h : digitText m ++ rest = digitText n ++ rest') : m = n ∧ rest = rest' := by
  have hd : digitText m = digitText n := by
    rw [← takeWhile_digitText m hr, h, takeWhile_digitText n hr']
  constructor
  · calc
      m = Nat.ofDigitChars 10 (digitText m) 0 := Nat.ofDigitChars_ten_toDigits.symm
      _ = Nat.ofDigitChars 10 (digitText n) 0 := by rw [hd]
      _ = n := Nat.ofDigitChars_ten_toDigits
  · rw [hd] at h
    exact List.append_cancel_left h

lemma exists_digitText (n : Nat) : ∃ c cs, digitText n = c :: cs ∧ c.isDigit = true := by
  obtain ⟨c, cs, hc⟩ := List.exists_cons_of_ne_nil (Nat.toDigits_ne_nil (n := n) (b := 10))
  exact ⟨c, cs, hc, isDigit_of_mem_digitText (n := n) (by simp [digitText, hc])⟩

lemma digitText_ne_minus (n : Nat) (cs : List Char) : digitText n ++ rest ≠ '-' :: cs := by
  obtain ⟨c, ds, hc, hd⟩ := exists_digitText n
  intro h
  obtain rfl : c = '-' := by simpa [hc] using congrArg List.head? h
  cases hd

lemma intText_cancel {a b : Int} (hr : Ends rest) (hr' : Ends rest')
    (h : intText a ++ rest = intText b ++ rest') : a = b ∧ rest = rest' := by
  unfold intText at h
  split at h <;> split at h
  · obtain ⟨hn, ht⟩ := digitText_cancel hr hr' (List.cons.inj h).2
    exact ⟨by omega, ht⟩
  · exact (digitText_ne_minus _ _ h.symm).elim
  · exact (digitText_ne_minus _ _ h).elim
  · obtain ⟨hn, ht⟩ := digitText_cancel hr hr' h
    exact ⟨by omega, ht⟩

end Numbers

def Cancels {α : Type} (text : α → List Char) (a b : α) : Prop :=
  ∀ rest rest', Ends rest → Ends rest' → text a ++ rest = text b ++ rest' → a = b ∧ rest = rest'

section Blocks

variable {α : Type} {text : α → List Char} {as bs : List α} {rest rest' : List Char}

def following (level : Nat) (texts : List (List Char)) : List Char :=
  texts.flatMap fun t => ',' :: ((newline level).toList ++ t)

def block (opening closing : Char) (level : Nat) : List (List Char) → List Char
  | [] => [opening, closing]
  | t :: texts =>
    opening :: ((newline (level + 1)).toList ++ (t ++ (following (level + 1) texts ++
      ((newline level).toList ++ [closing]))))

lemma newline_toList (level : Nat) :
    (newline level).toList = '\n' :: List.replicate (2 * level) ' ' := by
  simp [newline]

lemma ends_following (level outer : Nat) (texts : List (List Char)) (rest : List Char) :
    Ends (following level texts ++ ((newline outer).toList ++ rest)) := by
  cases texts <;> simp [following, newline_toList]

lemma following_cancel (level outer : Nat) (h : ∀ a ∈ as, ∀ b ∈ bs, Cancels text a b)
    (he : following level (as.map text) ++ ((newline outer).toList ++ rest) =
      following level (bs.map text) ++ ((newline outer).toList ++ rest')) :
    as = bs ∧ rest = rest' := by
  induction as generalizing bs with
  | nil =>
    cases bs with
    | nil => exact ⟨rfl, List.append_cancel_left he⟩
    | cons b bs => simp [following, newline_toList] at he
  | cons a as ih =>
    cases bs with
    | nil => simp [following, newline_toList] at he
    | cons b bs =>
      have ht : text a ++ (following level (as.map text) ++ ((newline outer).toList ++ rest)) =
          text b ++ (following level (bs.map text) ++ ((newline outer).toList ++ rest')) := by
        simpa [following] using he
      obtain ⟨rfl, hrest⟩ := h a (by simp) b (by simp) _ _ (ends_following _ _ _ _)
        (ends_following _ _ _ _) ht
      obtain ⟨rfl, hr⟩ := ih (fun c hc d hd => h c (by simp [hc]) d (by simp [hd])) hrest
      exact ⟨rfl, hr⟩

lemma block_cancel {opening closing : Char} (level : Nat) (hc : closing ≠ '\n')
    (h : ∀ a ∈ as, ∀ b ∈ bs, Cancels text a b)
    (he : block opening closing level (as.map text) ++ rest =
      block opening closing level (bs.map text) ++ rest') : as = bs ∧ rest = rest' := by
  cases as with
  | nil =>
    cases bs with
    | nil => simpa [block] using he
    | cons b bs => simp [block, newline_toList, hc] at he
  | cons a as =>
    cases bs with
    | nil => simp [block, newline_toList, hc.symm] at he
    | cons b bs =>
      have ht : text a ++ (following (level + 1) (as.map text) ++
            ((newline level).toList ++ (closing :: rest))) =
          text b ++ (following (level + 1) (bs.map text) ++
            ((newline level).toList ++ (closing :: rest'))) := by
        simpa [block] using he
      obtain ⟨rfl, hrest⟩ := h a (by simp) b (by simp) _ _ (ends_following _ _ _ _)
        (ends_following _ _ _ _) ht
      obtain ⟨rfl, hr⟩ := following_cancel (level + 1) level
        (fun c hc d hd => h c (by simp [hc]) d (by simp [hd])) hrest
      exact ⟨rfl, (List.cons.inj hr).2⟩

end Blocks

section Values

def written (level : Nat) (v : Json) : List Char :=
  (v.prettyAt level).toList

def writtenMember (level : Nat) (m : String × Json) : List Char :=
  (quote m.1).toList ++ (':' :: ' ' :: written level m.2)

lemma prettyItems_toList (level : Nat) (items : List Json) :
    (prettyItems level items).toList = following level (items.map (written level)) := by
  induction items with
  | nil => simp [prettyItems, following]
  | cons item items ih => simpa [prettyItems, following, written] using ih

lemma prettyMembers_toList (level : Nat) (members : List (String × Json)) :
    (prettyMembers level members).toList = following level (members.map (writtenMember level)) := by
  induction members with
  | nil => simp [prettyMembers, following]
  | cons m members ih => simpa [prettyMembers, following, writtenMember, written] using ih

lemma written_array (level : Nat) (items : List Json) :
    written level (.array items) = block '[' ']' level (items.map (written (level + 1))) := by
  cases items with
  | nil => simp [written, prettyAt, block]
  | cons item items => simp [written, prettyAt, block, prettyItems_toList]

lemma written_object (level : Nat) (members : List (String × Json)) :
    written level (.object members) =
      block '\x7b' '\x7d' level (members.map (writtenMember (level + 1))) := by
  cases members with
  | nil => simp [written, prettyAt, block]
  | cons m members => simp [written, prettyAt, block, prettyMembers_toList, writtenMember]

inductive Kind where
  | null
  | bool (b : Bool)
  | number
  | string
  | array
  | object

def kind : Json → Kind
  | .null => .null
  | .bool b => .bool b
  | .int _ | .float _ => .number
  | .string _ => .string
  | .array _ => .array
  | .object _ => .object

def Kind.ofFirst : Char → Kind
  | 'n' => .null
  | 't' => .bool true
  | 'f' => .bool false
  | '"' => .string
  | '[' => .array
  | '\x7b' => .object
  | _ => .number

lemma Kind.ofFirst_digit {c : Char} (h : c.isDigit = true) : Kind.ofFirst c = .number := by
  unfold Kind.ofFirst
  split
  case h_7 => rfl
  all_goals cases h

lemma exists_first_intText (n : Int) :
    ∃ c cs, Number.Binary64.intText n = c :: cs ∧ Kind.ofFirst c = .number := by
  unfold Number.Binary64.intText
  split
  · exact ⟨'-', _, rfl, rfl⟩
  · obtain ⟨c, cs, hc, hd⟩ := exists_digitText n.toNat
    exact ⟨c, cs, hc, Kind.ofFirst_digit hd⟩

lemma exists_first_block (opening closing : Char) (level : Nat) (texts : List (List Char)) :
    ∃ cs, block opening closing level texts = opening :: cs := by
  cases texts with
  | nil => exact ⟨_, rfl⟩
  | cons t texts => exact ⟨_, rfl⟩

lemma Exact.exists_first {v : Json} (h : Exact v) (level : Nat) :
    ∃ c cs, written level v = c :: cs ∧ Kind.ofFirst c = v.kind := by
  cases h with
  | null => exact ⟨'n', ['u', 'l', 'l'], by simp [written, prettyAt], rfl⟩
  | bool b =>
    cases b with
    | true => exact ⟨'t', ['r', 'u', 'e'], by simp [written, prettyAt], rfl⟩
    | false => exact ⟨'f', ['a', 'l', 's', 'e'], by simp [written, prettyAt], rfl⟩
  | int n =>
    obtain ⟨c, cs, hc, hk⟩ := exists_first_intText n
    exact ⟨c, cs, by simp [written, prettyAt, hc], hk⟩
  | string s =>
    exact ⟨'"', s.toList.flatMap escapeChar ++ ['"'], by simp [written, prettyAt, quote], rfl⟩
  | @array items h =>
    obtain ⟨cs, hc⟩ := exists_first_block '[' ']' level (items.map (written (level + 1)))
    exact ⟨'[', cs, (written_array level items).trans hc, rfl⟩
  | @object members h =>
    obtain ⟨cs, hc⟩ := exists_first_block '\x7b' '\x7d' level
      (members.map (writtenMember (level + 1)))
    exact ⟨'\x7b', cs, (written_object level members).trans hc, rfl⟩

lemma kind_eq_of_written {v w : Json} (hv : Exact v) (hw : Exact w) {level : Nat}
    {rest rest' : List Char} (h : written level v ++ rest = written level w ++ rest') :
    v.kind = w.kind := by
  obtain ⟨c, cs, hc, hk⟩ := hv.exists_first level
  obtain ⟨d, ds, hd, hl⟩ := hw.exists_first level
  rw [hc, hd] at h
  obtain rfl : c = d := (List.cons.inj h).1
  exact hk.symm.trans hl

lemma cancels_member {level : Nat} {m m' : String × Json}
    (h : Cancels (written level) m.2 m'.2) : Cancels (writtenMember level) m m' := by
  intro rest rest' hr hr' he
  have hq : (quote m.1).toList ++ (':' :: ' ' :: (written level m.2 ++ rest)) =
      (quote m'.1).toList ++ (':' :: ' ' :: (written level m'.2 ++ rest')) := by
    simpa [writtenMember] using he
  obtain ⟨hn, ht⟩ := quote_cancel hq
  obtain ⟨hv, hrest⟩ := h rest rest' hr hr' (by simpa using ht)
  exact ⟨Prod.ext hn hv, hrest⟩

lemma Exact.cancels {v w : Json} (hv : Exact v) (hw : Exact w) (level : Nat) :
    Cancels (written level) v w := by
  -- by the structure of the first value; the first character tells that of the second
  induction hv generalizing w level with
  | null =>
    intro rest rest' _ _ h
    have hk := kind_eq_of_written .null hw h
    cases hw with
    | null => exact ⟨rfl, List.append_cancel_left h⟩
    | _ => cases hk
  | bool b =>
    intro rest rest' _ _ h
    have hk := kind_eq_of_written (.bool b) hw h
    cases hw with
    | bool b' =>
      obtain rfl : b = b' := Kind.bool.inj hk
      exact ⟨rfl, List.append_cancel_left h⟩
    | _ => cases hk
  | int n =>
    intro rest rest' hr hr' h
    have hk := kind_eq_of_written (.int n) hw h
    cases hw with
    | int n' =>
      obtain ⟨rfl, ht⟩ := intText_cancel hr hr' (by simpa [written, prettyAt] using h)
      exact ⟨rfl, ht⟩
    | _ => cases hk
  | string s =>
    intro rest rest' _ _ h
    have hk := kind_eq_of_written (.string s) hw h
    cases hw with
    | string s' =>
      obtain ⟨rfl, ht⟩ := quote_cancel (by simpa only [written, prettyAt] using h)
      exact ⟨rfl, ht⟩
    | _ => cases hk
  | array hi ih =>
    intro rest rest' _ _ h
    have hk := kind_eq_of_written (.array hi) hw h
    cases hw with
    | array hi' =>
      rw [written_array, written_array] at h
      obtain ⟨rfl, ht⟩ := block_cancel level (by decide)
        (fun a ha b hb => ih a ha (hi' b hb) (level + 1)) h
      exact ⟨rfl, ht⟩
    | _ => cases hk
  | object hm ih =>
    intro rest rest' _ _ h
    have hk := kind_eq_of_written (.object hm) hw h
    cases hw with
    | object hm' =>
      rw [written_object, written_object] at h
      obtain ⟨rfl, ht⟩ := block_cancel level (by decide)
        (fun a ha b hb => cancels_member (ih a ha (hm' b hb) (level + 1))) h
      exact ⟨rfl, ht⟩
    | _ => cases hk

lemma eq_of_pretty_eq {v w : Json} (hv : Exact v) (hw : Exact w) (h : v.pretty = w.pretty) :
    v = w := by
  refine (hv.cancels hw 0 [] [] ends_nil ends_nil ?_).1
  rw [List.append_nil, List.append_nil]
  exact congrArg String.toList h

end Values

end ApkAudit.Json
