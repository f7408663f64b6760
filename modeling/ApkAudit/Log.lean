/-!
Values that come with a log: what a step computed, and the messages it left on the way.
-/

namespace ApkAudit

inductive Severity where
  | error
  | warning
  | info
  | debug
deriving DecidableEq, Repr

def Severity.rank : Severity → Nat
  | error => 1
  | warning => 2
  | info => 3
  | debug => 4

inductive LogSource where
  | program
  | catalogue
  | notices
  | context
  | reportFile
  | reportWriter
  | code
  | decoding
  | scan
deriving DecidableEq, Repr

def LogSource.path : LogSource → String
  | program => "apk_vectors"
  | catalogue => "apk_vectors::vectors"
  | notices => "apk_vectors::utils"
  | context => "apk_vectors::context"
  | reportFile => "apk_vectors::results::report::json"
  | reportWriter => "apk_vectors::results::writer"
  | code => "apk_vectors::apk::smali"
  | decoding => "apk_vectors::apk::decoded"
  | scan => "apk_vectors::scan"

structure LogLine where
  severity : Severity
  source : LogSource
  message : String
deriving DecidableEq, Repr

structure Logged (α : Type) where
  value : α
  log : List LogLine

namespace Logged

variable {α β : Type}

def bind (x : Logged α) (f : α → Logged β) : Logged β :=
  ⟨(f x.value).value, x.log ++ (f x.value).log⟩

instance : Monad Logged where
  pure a := ⟨a, []⟩
  bind := bind

@[simp] theorem value_pure (a : α) : (pure a : Logged α).value = a := rfl

@[simp] theorem log_pure (a : α) : (pure a : Logged α).log = [] := rfl

@[simp] theorem value_bind (x : Logged α) (f : α → Logged β) :
    (x >>= f).value = (f x.value).value := rfl

@[simp] theorem log_bind (x : Logged α) (f : α → Logged β) :
    (x >>= f).log = x.log ++ (f x.value).log := rfl

end Logged

namespace Log

def error (source : LogSource) (message : String) : Logged Unit :=
  ⟨(), [⟨.error, source, message⟩]⟩

def warning (source : LogSource) (message : String) : Logged Unit :=
  ⟨(), [⟨.warning, source, message⟩]⟩

def info (source : LogSource) (message : String) : Logged Unit :=
  ⟨(), [⟨.info, source, message⟩]⟩

def debug (source : LogSource) (message : String) : Logged Unit :=
  ⟨(), [⟨.debug, source, message⟩]⟩

end Log

end ApkAudit
