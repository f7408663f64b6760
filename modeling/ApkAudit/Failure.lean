/-!
Failures: the kinds that the analysis knows, and chains of causes around them.
-/

namespace ApkAudit

inductive Fault where
  | packageMissing (path : String)
  | archiveCorrupted (message : String)
  | packageNameEmpty (path : String)
  | codeMissing (path : String)
  | configuration (message : String)
  | parse (message : String)
  | decoding (message : String)
deriving DecidableEq, Repr

namespace Fault

def id : Fault → String
  | packageMissing _ => "apk_file_not_exist"
  | archiveCorrupted _ => "fail_to_unzip_apk_file"
  | packageNameEmpty _ => "package_name_empty"
  | codeMissing _ => "classes_dex_not_in_apk"
  | configuration _ => "config_error"
  | parse _ => "parse_error"
  | decoding _ => "decompilation_error"

def message : Fault → String
  | packageMissing path => s!"APK file not exist (File: {path})"
  | archiveCorrupted text => s!"the package archive could not be unpacked: {text}"
  | packageNameEmpty path => s!"Package name is empty (File: {path})"
  | codeMissing path => s!"Broken APK file. \"classes.dex\" file not found (File: {path})"
  | configuration text => s!"there was an error in the configuration: {text}"
  | parse text => s!"there was an error in the parsing process: {text}"
  | decoding text => s!"the decompilation tool failed: {text}"

def isExpected : Fault → Bool
  | packageMissing _ | archiveCorrupted _ | packageNameEmpty _ | codeMissing _ => true
  | configuration _ | parse _ | decoding _ => false

def needsDetail : Fault → Bool
  | packageMissing _ | packageNameEmpty _ | codeMissing _ => false
  | archiveCorrupted _ | configuration _ | parse _ | decoding _ => true

end Fault

inductive Cause where
  | fault (f : Fault)
  | note (text : String)
deriving DecidableEq, Repr

def Cause.message : Cause → String
  | fault f => f.message
  | note text => text

def Cause.fault? : Cause → Option Fault
  | fault f => some f
  | note _ => none

structure Failure where
  outer : Cause
  inner : List Cause
deriving DecidableEq, Repr

namespace Failure

def ofFault (f : Fault) : Failure := ⟨.fault f, []⟩

def ofText (text : String) : Failure := ⟨.note text, []⟩

def within (text : String) (failure : Failure) : Failure :=
  ⟨.note text, failure.outer :: failure.inner⟩

def causes (failure : Failure) : List Cause :=
  failure.outer :: failure.inner

def fault? (failure : Failure) : Option Fault :=
  failure.causes.findSome? Cause.fault?

def message (failure : Failure) : String :=
  failure.outer.message

def messages (failure : Failure) : List String :=
  failure.causes.map Cause.message

@[simp] theorem causes_within (text : String) (failure : Failure) :
    (failure.within text).causes = .note text :: failure.causes := rfl

@[simp] theorem fault?_within (text : String) (failure : Failure) :
    (failure.within text).fault? = failure.fault? := by
  rw [fault?, causes_within]
  rfl

end Failure

def Outcome.within {α : Type} (text : String) (outcome : Except Failure α) : Except Failure α :=
  outcome.mapError (Failure.within text)

theorem Outcome.of_bind_ok {ε α β : Type} {x : Except ε α} {f : α → Except ε β} {b : β}
    (h : x >>= f = .ok b) : ∃ a, x = .ok a ∧ f a = .ok b := by
  cases x with
  | error e => cases h
  | ok a => exact ⟨a, rfl, h⟩

end ApkAudit
