/-!
# Runs of numbers

ASCII spellings of characters that stand for consecutive numbers: the digits of the scripts,
circled numbers, notes of ancient music, and signs that are known by their numbers.
-/

set_option autoImplicit false

namespace AtomicCss.Text

/-- A run of characters whose numbers go up by one with their code points. -/
structure NumberRun where
  /-- The code point of the first character. -/
  first : Nat
  /-- The code point of the last character. -/
  last : Nat
  /-- The number of the first character. -/
  value : Nat
deriving Repr, DecidableEq

/-- The runs in increasing order. -/
def numberRuns : List NumberRun :=
  [⟨0x660, 0x669, 0⟩, ⟨0x6F0, 0x6F9, 0⟩, ⟨0x7C0, 0x7C9, 0⟩, ⟨0x966, 0x96F, 0⟩, ⟨0x9E6, 0x9EF, 0⟩,
   ⟨0xA66, 0xA6F, 0⟩, ⟨0xAE6, 0xAEF, 0⟩, ⟨0xB66, 0xB6F, 0⟩, ⟨0xBE6, 0xBEF, 0⟩, ⟨0xC66, 0xC6F, 0⟩,
   ⟨0xC78, 0xC7B, 0⟩, ⟨0xCE6, 0xCEF, 0⟩, ⟨0xD66, 0xD70, 0⟩, ⟨0xDE6, 0xDEF, 0⟩, ⟨0xE50, 0xE59, 0⟩,
   ⟨0xED0, 0xED9, 0⟩, ⟨0xF20, 0xF29, 0⟩, ⟨0x1040, 0x1049, 0⟩, ⟨0x1090, 0x1099, 0⟩,
   ⟨0x1369, 0x1371, 1⟩, ⟨0x17E0, 0x17E9, 0⟩, ⟨0x17F0, 0x17F9, 0⟩, ⟨0x1810, 0x1819, 0⟩,
   ⟨0x1946, 0x194F, 0⟩, ⟨0x19D0, 0x19D9, 0⟩, ⟨0x1A80, 0x1A89, 0⟩, ⟨0x1A90, 0x1A99, 0⟩,
   ⟨0x1B50, 0x1B59, 0⟩, ⟨0x1BB0, 0x1BB9, 0⟩, ⟨0x1C40, 0x1C49, 0⟩, ⟨0x1C50, 0x1C59, 0⟩,
   ⟨0x2074, 0x2079, 4⟩, ⟨0x2080, 0x2089, 0⟩, ⟨0x2460, 0x2473, 1⟩, ⟨0x24EB, 0x24F4, 11⟩,
   ⟨0x24F5, 0x24FE, 1⟩, ⟨0x2680, 0x2685, 1⟩, ⟨0x2776, 0x277F, 1⟩, ⟨0x2780, 0x2789, 1⟩,
   ⟨0x278A, 0x2793, 1⟩, ⟨0x3021, 0x3029, 1⟩, ⟨0x3192, 0x3195, 1⟩, ⟨0x3251, 0x325F, 21⟩,
   ⟨0x32B1, 0x32BF, 36⟩, ⟨0xA620, 0xA629, 0⟩, ⟨0xA6E6, 0xA6EE, 1⟩, ⟨0xA700, 0xA707, 1⟩,
   ⟨0xA717, 0xA71A, 1⟩, ⟨0xA828, 0xA82B, 1⟩, ⟨0xA8D0, 0xA8D9, 0⟩, ⟨0xA8E0, 0xA8E9, 0⟩,
   ⟨0xA900, 0xA909, 0⟩, ⟨0xA9D0, 0xA9D9, 0⟩, ⟨0xA9F0, 0xA9F9, 0⟩, ⟨0xAA50, 0xAA59, 0⟩,
   ⟨0xABF0, 0xABF9, 0⟩, ⟨0xFF10, 0xFF19, 0⟩, ⟨0x10107, 0x10110, 1⟩, ⟨0x1017C, 0x10180, 1⟩,
   ⟨0x101D9, 0x101FD, 10⟩, ⟨0x102E1, 0x102EA, 1⟩, ⟨0x104A0, 0x104A9, 0⟩, ⟨0x10879, 0x1087D, 1⟩,
   ⟨0x108A7, 0x108AA, 1⟩, ⟨0x109C0, 0x109C9, 1⟩, ⟨0x109F6, 0x109FF, 1⟩, ⟨0x10A40, 0x10A43, 1⟩,
   ⟨0x10B58, 0x10B5B, 1⟩, ⟨0x10B78, 0x10B7B, 1⟩, ⟨0x10BA9, 0x10BAC, 1⟩, ⟨0x10D30, 0x10D39, 0⟩,
   ⟨0x10E60, 0x10E69, 1⟩, ⟨0x10F1D, 0x10F21, 1⟩, ⟨0x10FC5, 0x10FC8, 1⟩, ⟨0x11052, 0x1105B, 1⟩,
   ⟨0x11066, 0x1106F, 0⟩, ⟨0x110F0, 0x110F9, 0⟩, ⟨0x11136, 0x1113F, 0⟩, ⟨0x111D0, 0x111D9, 0⟩,
   ⟨0x111E1, 0x111EA, 1⟩, ⟨0x112F0, 0x112F9, 0⟩, ⟨0x11366, 0x1136C, 0⟩, ⟨0x11450, 0x11459, 0⟩,
   ⟨0x114D0, 0x114D9, 0⟩, ⟨0x11650, 0x11659, 0⟩, ⟨0x116C0, 0x116C9, 0⟩, ⟨0x11730, 0x1173A, 0⟩,
   ⟨0x118E0, 0x118EA, 0⟩, ⟨0x11950, 0x11959, 0⟩, ⟨0x11C50, 0x11C59, 0⟩, ⟨0x11C5A, 0x11C63, 1⟩,
   ⟨0x11D50, 0x11D59, 0⟩, ⟨0x11DA0, 0x11DA9, 0⟩, ⟨0x11F50, 0x11F59, 0⟩, ⟨0x12400, 0x12407, 2⟩,
   ⟨0x12408, 0x1240E, 3⟩, ⟨0x1240F, 0x12414, 4⟩, ⟨0x12415, 0x1241D, 1⟩, ⟨0x1241E, 0x12422, 1⟩,
   ⟨0x12425, 0x1242B, 3⟩, ⟨0x1244A, 0x1244E, 2⟩, ⟨0x1244F, 0x12452, 1⟩, ⟨0x12469, 0x1246E, 4⟩,
   ⟨0x12F92, 0x12F9A, 4⟩, ⟨0x12FA1, 0x12FA8, 23⟩, ⟨0x12FA9, 0x12FB1, 33⟩, ⟨0x12FB5, 0x12FBC, 49⟩,
   ⟨0x12FBD, 0x12FC3, 58⟩, ⟨0x12FC4, 0x12FCD, 66⟩, ⟨0x12FD0, 0x12FDE, 78⟩,
   ⟨0x12FDF, 0x12FEA, 94⟩, ⟨0x12FEB, 0x12FEE, 107⟩, ⟨0x16A60, 0x16A69, 0⟩, ⟨0x16AC0, 0x16AC9, 0⟩,
   ⟨0x16B50, 0x16B59, 0⟩, ⟨0x16E80, 0x16E93, 0⟩, ⟨0x18AF3, 0x18AFF, 756⟩, ⟨0x1CCF0, 0x1CCF9, 0⟩,
   ⟨0x1D200, 0x1D217, 1⟩, ⟨0x1D218, 0x1D21C, 50⟩, ⟨0x1D223, 0x1D226, 11⟩, ⟨0x1D22A, 0x1D22E, 23⟩,
   ⟨0x1D232, 0x1D236, 36⟩, ⟨0x1D23A, 0x1D241, 47⟩, ⟨0x1D2C0, 0x1D2D3, 0⟩, ⟨0x1D2E0, 0x1D2F3, 0⟩,
   ⟨0x1D360, 0x1D369, 1⟩, ⟨0x1D372, 0x1D376, 1⟩, ⟨0x1D7CE, 0x1D7D7, 0⟩, ⟨0x1D7D8, 0x1D7E1, 0⟩,
   ⟨0x1D7E2, 0x1D7EB, 0⟩, ⟨0x1D7EC, 0x1D7F5, 0⟩, ⟨0x1D7F6, 0x1D7FF, 0⟩, ⟨0x1E140, 0x1E149, 0⟩,
   ⟨0x1E2F0, 0x1E2F9, 0⟩, ⟨0x1E4F0, 0x1E4F9, 0⟩, ⟨0x1E8C7, 0x1E8CF, 1⟩, ⟨0x1E950, 0x1E959, 0⟩,
   ⟨0x1EC71, 0x1EC7A, 1⟩, ⟨0x1ECA3, 0x1ECAB, 1⟩, ⟨0x1ED01, 0x1ED0A, 1⟩, ⟨0x1ED2F, 0x1ED37, 2⟩,
   ⟨0x1F038, 0x1F03E, 10⟩, ⟨0x1F03F, 0x1F045, 20⟩, ⟨0x1F046, 0x1F04C, 30⟩,
   ⟨0x1F04D, 0x1F053, 40⟩, ⟨0x1F054, 0x1F05A, 50⟩, ⟨0x1F05B, 0x1F061, 60⟩,
   ⟨0x1F06A, 0x1F070, 10⟩, ⟨0x1F071, 0x1F077, 20⟩, ⟨0x1F078, 0x1F07E, 30⟩,
   ⟨0x1F07F, 0x1F085, 40⟩, ⟨0x1F086, 0x1F08C, 50⟩, ⟨0x1F08D, 0x1F093, 60⟩, ⟨0x1F0E0, 0x1F0F5, 0⟩,
   ⟨0x1FBF0, 0x1FBF9, 0⟩]

/-- The number that a character stands for by its place in a run. -/
def runNumber? (code : Nat) : Option Nat :=
  (numberRuns.find? fun run => run.first ≤ code && code ≤ run.last).map fun run =>
    run.value + (code - run.first)

/-- The spelling of a character in a run of numbers: the digits of its number. -/
def numberSpelling? (c : Char) : Option String := (runNumber? c.toNat).map toString

end AtomicCss.Text
