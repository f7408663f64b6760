import ApkAudit.Report.File
import ApkAudit.Proofs.Disk.Subfolder
import ApkAudit.Proofs.Json.Unambiguous

/-! The file of a report tells its status, its findings and its metadata, whatever texts they are
made of.  Only whether an entry is hidden from readers is not in the file. -/

namespace ApkAudit

lemma Level.text_injective : Function.Injective Level.text := by
  intro a b h
  have ha := Level.read_text a
  rw [h, Level.read_text] at ha
  exact (Except.ok.inj ha).symm

lemma Status.text_injective : Function.Injective Status.text := by
  have hfind : ∀ s : Status, Status.all.find? (fun t => t.text = s.text) = some s := by
    intro s
    cases s <;> rfl
  intro a b h
  have ha := hfind a
  rw [h, hfind b] at ha
  exact (Option.some.inj ha).symm

namespace Json

def bracketed (left right outer inner : String) (items : List String) : String :=
  if items = [] then left ++ right
  else left ++ inner ++ String.intercalate ("," ++ inner) items ++ outer ++ right

lemma append_prettyItems (level : Nat) (first : String) (items : List Json) :
    first ++ prettyItems level items =
      String.intercalate ("," ++ newline level) (first :: items.map (prettyAt level)) := by
  induction items generalizing first with
  | nil => simp [prettyItems]
  | cons item items ih =>
    rw [prettyItems, List.map_cons, String.intercalate_cons_cons, ← ih]
    simp only [String.append_assoc]

def memberText (level : Nat) (m : String × Json) : String :=
  quote m.1 ++ ": " ++ m.2.prettyAt level

lemma append_prettyMembers (level : Nat) (first : String) (members : List (String × Json)) :
    first ++ prettyMembers level members =
      String.intercalate ("," ++ newline level) (first :: members.map (memberText level)) := by
  induction members generalizing first with
  | nil => simp [prettyMembers]
  | cons m members ih =>
    rw [prettyMembers, List.map_cons, String.intercalate_cons_cons, ← ih]
    simp only [memberText, String.append_assoc]

lemma prettyAt_array (level : Nat) (items : List Json) :
    (Json.array items).prettyAt level =
      bracketed "[" "]" (newline level) (newline (level + 1))
        (items.map (prettyAt (level + 1))) := by
  cases items with
  | nil => rfl
  | cons item items =>
    rw [List.map_cons, bracketed, if_neg (List.cons_ne_nil _ _), ← append_prettyItems, prettyAt]
    simp only [String.append_assoc]

lemma prettyAt_object (level : Nat) (members : List (String × Json)) :
    (Json.object members).prettyAt level =
      bracketed "\x7b" "\x7d" (newline level) (newline (level + 1))
        (members.map (memberText (level + 1))) := by
  cases members with
  | nil => rfl
  | cons m members =>
    rw [List.map_cons, bracketed, if_neg (List.cons_ne_nil _ _), ← append_prettyMembers, prettyAt]
    simp only [memberText, String.append_assoc]

end Json

namespace Finding

def fileText (f : Finding) : String :=
  Json.bracketed "\x7b" "\x7d" "\n    " "\n      "
    ["\"tag\": " ++ Json.quote f.tag, "\"level\": \"" ++ f.level.text ++ "\"",
      "\"title\": " ++ Json.quote f.title, "\"description\": " ++ Json.quote f.description,
      "\"details\": " ++
        Json.bracketed "[" "]" "\n      " "\n        " (f.details.map Json.quote)]

lemma prettyAt_json (f : Finding) : f.json.prettyAt 2 = f.fileText := by
  have hlevel : Json.quote f.level.text = "\"" ++ f.level.text ++ "\"" := by
    cases f.level <;> rfl
  have hdetails : (f.details.map Json.string).map (Json.prettyAt 4) = f.details.map Json.quote := by
    rw [List.map_map]
    rfl
  rw [json, Json.prettyAt_object]
  simp only [List.map_cons, List.map_nil, Json.memberText, Json.prettyAt_array, hdetails]
  simp only [Json.prettyAt, hlevel]
  rfl

lemma exact_json (f : Finding) : f.json.Exact := by
  have hd : (Json.array (f.details.map .string)).Exact := by
    apply Json.Exact.array
    intro item hi
    obtain ⟨line, _, rfl⟩ := List.mem_map.mp hi
    exact .string line
  apply Json.Exact.object
  intro m hm
  simp only [List.mem_cons, List.not_mem_nil, or_false] at hm
  rcases hm with rfl | rfl | rfl | rfl | rfl
  · exact .string _
  · exact .string _
  · exact .string _
  · exact .string _
  · exact hd

lemma json_injective : Function.Injective Finding.json := by
  rintro ⟨tag, level, title, description, details⟩ ⟨tag', level', title', description', details'⟩ h
  simp only [json, Json.object.injEq, List.cons.injEq, Prod.mk.injEq, Json.string.injEq,
    Json.array.injEq, true_and, and_true] at h
  obtain ⟨rfl, hlevel, rfl, rfl, hdetails⟩ := h
  obtain rfl := Level.text_injective hlevel
  obtain rfl := (List.map_inj_right fun _ _ => Json.string.inj).mp hdetails
  rfl

end Finding

lemma Metadata.get?_eq_lookup (m : Metadata) (key : String) :
    m.get? key = (m.entries.map fun e => (e.1, e.2.value)).lookup key := by
  unfold Metadata.get?
  induction m.entries with
  | nil => rfl
  | cons entry rest ih =>
    rw [List.map_cons, List.lookup_cons, List.lookup_cons]
    cases key == entry.1 with
    | true => rfl
    | false => exact ih

namespace Report

variable {r r' : Report}

def Exact (r : Report) : Prop :=
  ∀ e ∈ r.metadata.entries, e.2.value.Exact

lemma Exact.json (h : r.Exact) : r.json.Exact := by
  have hmetadata : r.metadata.json.Exact := by
    apply Json.Exact.object
    intro m hm
    obtain ⟨e, he, rfl⟩ := List.mem_map.mp hm
    exact h e he
  have hfindings : (Json.array (r.findings.map Finding.json)).Exact := by
    apply Json.Exact.array
    intro item hi
    obtain ⟨f, _, rfl⟩ := List.mem_map.mp hi
    exact f.exact_json
  apply Json.Exact.object
  intro m hm
  simp only [List.mem_cons, List.not_mem_nil, or_false] at hm
  rcases hm with rfl | rfl | rfl | rfl | rfl
  · exact .string _
  · exact .string _
  · exact hmetadata
  · exact .int _
  · exact hfindings

lemma eq_of_json_eq (h : r.json = r'.json) :
    r.status = r'.status ∧ r.findings = r'.findings ∧
      ∀ key, r.metadata.get? key = r'.metadata.get? key := by
  simp only [json, Metadata.json, Json.object.injEq, List.cons.injEq, Prod.mk.injEq,
    Json.string.injEq, Json.array.injEq, true_and, and_true] at h
  obtain ⟨hstatus, hmetadata, _, hfindings⟩ := h
  refine ⟨Status.text_injective hstatus,
    (List.map_inj_right fun _ _ hf => Finding.json_injective hf).mp hfindings, fun key => ?_⟩
  rw [Metadata.get?_eq_lookup, hmetadata, ← Metadata.get?_eq_lookup]

def fileText (r : Report) (status : String) : String :=
  Json.bracketed "\x7b" "\x7d" "\n" "\n  "
    ["\"analyzer_version\": \"0.1.0\"", "\"status\": \"" ++ status ++ "\"",
      "\"metadata\": " ++ Json.bracketed "\x7b" "\x7d" "\n  " "\n    "
        (r.metadata.entries.map fun e => Json.quote e.1 ++ ": " ++ e.2.value.prettyAt 2),
      "\"total_findings\": " ++ toString r.findings.length,
      "\"findings\": " ++
        Json.bracketed "[" "]" "\n  " "\n    " (r.findings.map Finding.fileText)]

lemma pretty_json (r : Report) : r.json.pretty = r.fileText r.status.text := by
  have hstatus : Json.quote r.status.text = "\"" ++ r.status.text ++ "\"" := by
    cases r.status <;> rfl
  have hmetadata : (r.metadata.entries.map fun e => (e.1, e.2.value)).map (Json.memberText 2) =
      r.metadata.entries.map fun e => Json.quote e.1 ++ ": " ++ e.2.value.prettyAt 2 := by
    rw [List.map_map]
    rfl
  have hfindings : (r.findings.map Finding.json).map (Json.prettyAt 2) =
      r.findings.map Finding.fileText := by
    rw [List.map_map]
    exact List.map_congr_left fun f _ => f.prettyAt_json
  have htotal : String.ofList (Number.Binary64.intText r.totalFindings) =
      toString r.findings.length := rfl
  rw [Json.pretty, json, Json.prettyAt_object]
  simp only [List.map_cons, List.map_nil, Json.memberText, Metadata.json, Json.prettyAt_array,
    Json.prettyAt_object, hmetadata, hfindings]
  simp only [Json.prettyAt, hstatus, htotal]
  rfl

lemma save_eq_ok_iff {disk saved : Disk} {results name : String} :
    (r.save disk results name).value = (.ok (), saved) ↔
      ∃ made place, disk.makeFolders (folder results name) = (made, none) ∧
        made.target (file results name) = .ok place ∧ made.fits r.content = true ∧
        saved = made.graft place (.file r.content) := by
  unfold save
  dsimp only
  split
  · next made e hm => simp [hm]
  · next made hm =>
    simp only [hm, Logged.value_bind, Prod.mk.injEq, and_true, exists_and_left, exists_eq_left']
    cases ht : made.target (file results name) with
    | error e => simp
    | ok place =>
      unfold Disk.fill
      cases hf : made.fits r.content with
      | false => simp
      | true => simp [Disk.taken_of_fits hf, eq_comm]

lemma readBytes_save {disk saved : Disk} {results name : String}
    (h : (r.save disk results name).value = (.ok (), saved)) :
    saved.readBytes (file results name) = .ok r.json.pretty.toUTF8 := by
  have hfile : Path.IsOrdinary "results.json" := by decide
  obtain ⟨made, place, _, ht, _, rfl⟩ := save_eq_ok_iff.mp h
  exact Disk.readBytes_target hfile ht

theorem saved_report_determined {disk disk' saved saved' : Disk}
    {results results' name name' : String} (hr : r.Exact) (hr' : r'.Exact)
    (h : (r.save disk results name).value = (.ok (), saved))
    (h' : (r'.save disk' results' name').value = (.ok (), saved'))
    (hsame : saved.readBytes (file results name) = saved'.readBytes (file results' name')) :
    r.status = r'.status ∧ r.findings = r'.findings ∧
      ∀ key, r.metadata.get? key = r'.metadata.get? key := by
  rw [readBytes_save h, readBytes_save h'] at hsame
  have htext : r.json.pretty = r'.json.pretty := String.toByteArray_inj.mp (Except.ok.inj hsame)
  exact eq_of_json_eq (Json.eq_of_pretty_eq hr.json hr'.json htext)

def awkward (printable : Bool) : Report where
  status := .success
  findings := [⟨"A_TAG", .notice, "a \"title\"\n", "C:\\temp\x08", ["", "\t, ]"]⟩]
  metadata := ⟨[("k\"\n", ⟨.array [.int (-12), .null, .object [("", .bool true)], .array []],
    printable⟩)], List.pairwise_singleton _ _⟩

lemma exact_awkward (printable : Bool) : (awkward printable).Exact := by
  intro e he
  obtain rfl := List.mem_singleton.mp he
  apply Json.Exact.array
  intro item hi
  simp only [List.mem_cons, List.not_mem_nil, or_false] at hi
  rcases hi with rfl | rfl | rfl | rfl
  · exact .int _
  · exact .null
  · apply Json.Exact.object
    intro m hm
    obtain rfl := List.mem_singleton.mp hm
    exact .bool true
  · exact .array (by simp)

theorem saved_report_determined_awkward :
    ∃ saved saved', ((awkward true).save {} "out" "a").value = (.ok (), saved) ∧
      ((awkward false).save {} "" "b/c").value = (.ok (), saved') ∧
      saved.readBytes (file "out" "a") = saved'.readBytes (file "" "b/c") ∧
      (awkward true).findings = (awkward false).findings := by
  obtain ⟨saved, h⟩ : ∃ saved, ((awkward true).save {} "out" "a").value = (.ok (), saved) :=
    ⟨_, rfl⟩
  obtain ⟨saved', h'⟩ : ∃ saved', ((awkward false).save {} "" "b/c").value = (.ok (), saved') :=
    ⟨_, rfl⟩
  have hjson : (awkward true).json = (awkward false).json := rfl
  have hsame : saved.readBytes (file "out" "a") = saved'.readBytes (file "" "b/c") := by
    rw [readBytes_save h, readBytes_save h', hjson]
  exact ⟨saved, saved', h, h', hsame,
    (saved_report_determined (exact_awkward true) (exact_awkward false) h h' hsame).2.1⟩

end Report

end ApkAudit
