import ApkAudit.Audit.Detector

/-!
The catalogue: the detectors that could be made, in the order of their names.
-/

namespace ApkAudit

abbrev Factory := Except String Detector

structure Catalogue where
  detectors : List Detector := []

namespace Catalogue

def load (i : Nat) : List Factory → Logged (List Detector)
  | [] => pure []
  | .ok detector :: rest => do
    Log.debug .catalogue s!"loaded vector {detector.name}"
    pure (detector :: (← load (i + 1) rest))
  | .error reason :: rest => do
    Log.error .catalogue s!"could not load vector #{i}: {reason}"
    load (i + 1) rest

/-- The catalogue of what a list of factories makes; detectors of one name keep their order. -/
def ofFactories (factories : List Factory) : Logged Catalogue := do
  let detectors ← load 0 factories
  pure ⟨detectors.mergeSort fun a b => a.name ≤ b.name⟩

def select (catalogue : Catalogue) (tag : Option String) : List Detector :=
  catalogue.detectors.filter fun d =>
    match tag with
    | none => true
    | some tag => d.tags.contains tag

end Catalogue

end ApkAudit
