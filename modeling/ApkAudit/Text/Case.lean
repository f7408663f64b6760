import ApkAudit.Text.CodePoint

/-!
Letters that differ in their case only.
-/

namespace ApkAudit.Text

/-- A run of letters: the code point of the first one, how many there are, the step from one to the
next, and how far after each the other letter of its pair stands. -/
structure CaseRun where
  first : Nat
  count : Nat
  step : Nat
  ahead : Nat

def CaseRun.has (r : CaseRun) (n : Nat) : Bool :=
  r.first ≤ n && n < r.first + r.count * r.step && (n - r.first) % r.step == 0

def CaseRun.partner? (r : CaseRun) (n : Nat) : Option Nat :=
  if r.has n then some (n + r.ahead)
  else if r.ahead ≤ n && r.has (n - r.ahead) then some (n - r.ahead)
  else none

def closeCaseRuns : List (Nat × Nat × Nat) := [
  (0x41, 26, 32), (0xC0, 23, 32), (0xD8, 7, 32), (0x189, 2, 205), (0x1B1, 2, 217),
  (0x23F, 2, 10815), (0x37B, 3, 130), (0x388, 3, 37), (0x38E, 2, 63), (0x391, 15, 32),
  (0x3A4, 8, 32), (0x400, 16, 80), (0x410, 32, 32), (0x531, 38, 48), (0x10A0, 38, 7264),
  (0x10D0, 43, 3008), (0x10FD, 3, 3008), (0x13A0, 80, 38864), (0x13F0, 6, 8), (0x1F00, 8, 8),
  (0x1F10, 6, 8), (0x1F20, 8, 8), (0x1F30, 8, 8), (0x1F40, 6, 8), (0x1F60, 8, 8), (0x1F70, 2, 74),
  (0x1F72, 4, 86), (0x1F76, 2, 100), (0x1F78, 2, 128), (0x1F7A, 2, 112), (0x1F7C, 2, 126),
  (0x1F80, 8, 8), (0x1F90, 8, 8), (0x1FA0, 8, 8), (0x1FB0, 2, 8), (0x1FD0, 2, 8), (0x1FE0, 2, 8),
  (0x2160, 16, 16), (0x24B6, 26, 26), (0x2C00, 48, 48), (0xFF21, 26, 32), (0x10400, 40, 40),
  (0x104B0, 36, 40), (0x10C80, 51, 64), (0x10D50, 22, 32), (0x118A0, 32, 32), (0x16E40, 32, 32),
  (0x1E900, 34, 34)]

def wideCaseRuns : List (Nat × Nat × Nat) := [
  (0x100, 24, 1), (0x132, 3, 1), (0x139, 8, 1), (0x14A, 23, 1), (0x179, 3, 1), (0x182, 2, 1),
  (0x1A0, 3, 1), (0x1B3, 2, 1), (0x1CD, 8, 1), (0x1DE, 9, 1), (0x1F8, 20, 1), (0x222, 9, 1),
  (0x246, 5, 1), (0x370, 2, 1), (0x3D8, 12, 1), (0x460, 17, 1), (0x48A, 27, 1), (0x4C1, 7, 1),
  (0x4D0, 48, 1), (0x1E00, 75, 1), (0x1EA0, 48, 1), (0x1F51, 4, 8), (0x2C67, 3, 1),
  (0x2C80, 50, 1), (0x2CEB, 2, 1), (0xA640, 23, 1), (0xA680, 14, 1), (0xA722, 7, 1),
  (0xA732, 31, 1), (0xA779, 2, 1), (0xA77E, 5, 1), (0xA790, 2, 1), (0xA796, 10, 1), (0xA7B4, 8, 1),
  (0xA7C7, 2, 1), (0xA7D6, 3, 1), (0x10570, 19, 39), (0x10571, 5, 39), (0x1057D, 7, 39),
  (0x1058D, 3, 39)]

def casePairs : List (Nat × Nat) := [
  (0xDF, 0x1E9E), (0xFF, 0x178), (0x180, 0x243), (0x181, 0x253), (0x186, 0x254), (0x187, 0x188),
  (0x18B, 0x18C), (0x18E, 0x1DD), (0x18F, 0x259), (0x190, 0x25B), (0x191, 0x192), (0x193, 0x260),
  (0x194, 0x263), (0x195, 0x1F6), (0x196, 0x269), (0x197, 0x268), (0x198, 0x199), (0x19A, 0x23D),
  (0x19B, 0xA7DC), (0x19C, 0x26F), (0x19D, 0x272), (0x19E, 0x220), (0x19F, 0x275), (0x1A6, 0x280),
  (0x1A7, 0x1A8), (0x1A9, 0x283), (0x1AC, 0x1AD), (0x1AE, 0x288), (0x1AF, 0x1B0), (0x1B7, 0x292),
  (0x1B8, 0x1B9), (0x1BC, 0x1BD), (0x1BF, 0x1F7), (0x1F4, 0x1F5), (0x23A, 0x2C65), (0x23B, 0x23C),
  (0x23E, 0x2C66), (0x241, 0x242), (0x244, 0x289), (0x245, 0x28C), (0x250, 0x2C6F),
  (0x251, 0x2C6D), (0x252, 0x2C70), (0x25C, 0xA7AB), (0x261, 0xA7AC), (0x264, 0xA7CB),
  (0x265, 0xA78D), (0x266, 0xA7AA), (0x26A, 0xA7AE), (0x26B, 0x2C62), (0x26C, 0xA7AD),
  (0x271, 0x2C6E), (0x27D, 0x2C64), (0x282, 0xA7C5), (0x287, 0xA7B1), (0x29D, 0xA7B2),
  (0x29E, 0xA7B0), (0x376, 0x377), (0x37F, 0x3F3), (0x386, 0x3AC), (0x38C, 0x3CC), (0x390, 0x1FD3),
  (0x3B0, 0x1FE3), (0x3CF, 0x3D7), (0x3F2, 0x3F9), (0x3F7, 0x3F8), (0x3FA, 0x3FB), (0x4C0, 0x4CF),
  (0x10C7, 0x2D27), (0x10CD, 0x2D2D), (0x1C89, 0x1C8A), (0x1D79, 0xA77D), (0x1D7D, 0x2C63),
  (0x1D8E, 0xA7C6), (0x1FB3, 0x1FBC), (0x1FC3, 0x1FCC), (0x1FE5, 0x1FEC), (0x1FF3, 0x1FFC),
  (0x2132, 0x214E), (0x2183, 0x2184), (0x2C60, 0x2C61), (0x2C72, 0x2C73), (0x2C75, 0x2C76),
  (0x2CF2, 0x2CF3), (0xA78B, 0xA78C), (0xA794, 0xA7C4), (0xA7B3, 0xAB53), (0xA7CC, 0xA7CD),
  (0xA7D0, 0xA7D1), (0xA7F5, 0xA7F6), (0xFB05, 0xFB06), (0x10595, 0x105BC)]

def caseRuns : List CaseRun :=
  closeCaseRuns.map (fun (first, count, ahead) => ⟨first, count, 1, ahead⟩) ++
    wideCaseRuns.map (fun (first, count, ahead) => ⟨first, count, 2, ahead⟩) ++
    casePairs.map fun (first, second) => ⟨first, 1, 1, second - first⟩

def caseGroups : List (List Nat) := [
  [0x4B, 0x6B, 0x212A], [0x53, 0x73, 0x17F], [0xB5, 0x39C, 0x3BC], [0xC5, 0xE5, 0x212B],
  [0x1C4, 0x1C5, 0x1C6], [0x1C7, 0x1C8, 0x1C9], [0x1CA, 0x1CB, 0x1CC], [0x1F1, 0x1F2, 0x1F3],
  [0x345, 0x399, 0x3B9, 0x1FBE], [0x392, 0x3B2, 0x3D0], [0x395, 0x3B5, 0x3F5],
  [0x398, 0x3B8, 0x3D1, 0x3F4], [0x39A, 0x3BA, 0x3F0], [0x3A0, 0x3C0, 0x3D6],
  [0x3A1, 0x3C1, 0x3F1], [0x3A3, 0x3C2, 0x3C3], [0x3A6, 0x3C6, 0x3D5], [0x3A9, 0x3C9, 0x2126],
  [0x412, 0x432, 0x1C80], [0x414, 0x434, 0x1C81], [0x41E, 0x43E, 0x1C82], [0x421, 0x441, 0x1C83],
  [0x422, 0x442, 0x1C84, 0x1C85], [0x42A, 0x44A, 0x1C86], [0x462, 0x463, 0x1C87],
  [0x1C88, 0xA64A, 0xA64B], [0x1E60, 0x1E61, 0x1E9B]]

def caseForms (c : Char) : List Char :=
  match caseGroups.find? (·.contains c.toNat) with
  | some group => group.filterMap charOfNat?
  | none => c :: (caseRuns.filterMap (·.partner? c.toNat)).filterMap charOfNat?

end ApkAudit.Text
